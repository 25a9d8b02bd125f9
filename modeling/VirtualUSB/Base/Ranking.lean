import VirtualUSB.Base.LabelledSystem
import Mathlib.Algebra.Order.BigOperators.Group.Finset
import Mathlib.Data.Prod.Lex
import Mathlib.Order.WellFounded

/-!
# Ranks that steps lower

The steps of a system that meet a condition come to an end if each of them lowers a rank in a
well-founded order.

* `Ranking.exists_not_ok`, `exists_ge_not_ok`: in an infinite execution steps that do not meet the
  condition come up again and again.
* `Ranking.restrict`, `Ranking.extend`: the same for fewer steps, and for further ones that lower
  another rank.
* `Inevitable`: whatever steps that meet the condition are taken, and in whatever order, they end,
  and where they end a property holds.  `Ranking.inevitable` is the rule for it.
* `sum_add_eq_of_ne`: a sum over the components of a state of which one moves.
-/

namespace LabelledSystem

variable {σ ι ο α : Type*} {M : LabelledSystem σ ι ο} {ok : σ → ι → Prop}

/-! ### Infinite executions -/

variable (M) in
/-- The inputs `a` are enabled one after the other, for ever, and lead through the states `f`. -/
def Execution (f : ℕ → σ) (a : ℕ → ι) : Prop :=
  ∀ n, ∃ os, M.step (f n) (a n) = some (f (n + 1), os)

/-- The states of an execution are reached by runs. -/
theorem Execution.run {f : ℕ → σ} {a : ℕ → ι} (h : M.Execution f a) (n : ℕ) :
    ∃ is os, M.RunFrom (f 0) is (f n) os := by
  induction n with
  | zero => exact ⟨[], [], .nil⟩
  | succ n ih =>
    obtain ⟨is, os, hrun⟩ := ih
    obtain ⟨os', hs⟩ := h n
    exact ⟨_, _, hrun.snoc trivial hs⟩

/-- What is left of an execution after some steps. -/
theorem Execution.drop {f : ℕ → σ} {a : ℕ → ι} (h : M.Execution f a) (n : ℕ) :
    M.Execution (fun k => f (n + k)) (fun k => a (n + k)) :=
  fun k => h (n + k)

/-! ### Ranks -/

/-- A rank that every step that meets `ok` lowers, in the states that meet an invariant of these
steps. -/
structure Ranking (M : LabelledSystem σ ι ο) (ok : σ → ι → Prop) (α : Type*) [LT α] where
  Inv : σ → Prop
  rank : σ → α
  keeps : ∀ s i s' os, Inv s → ok s i → M.step s i = some (s', os) → Inv s'
  lowers : ∀ s i s' os, Inv s → ok s i → M.step s i = some (s', os) → rank s' < rank s

/-- Fewer steps lower the rank too, and keep more. -/
def Ranking.restrict [LT α] (R : Ranking M ok α) {ok' : σ → ι → Prop}
    (hok : ∀ s i, ok' s i → ok s i) (P : σ → Prop)
    (hP : ∀ s i s' os, R.Inv s → P s → ok' s i → M.step s i = some (s', os) → P s') :
    Ranking M ok' α where
  Inv s := R.Inv s ∧ P s
  rank := R.rank
  keeps s i s' os hinv hi hs :=
    ⟨R.keeps s i s' os hinv.1 (hok s i hi) hs, hP s i s' os hinv.1 hinv.2 hi hs⟩
  lowers s i s' os hinv hi hs := R.lowers s i s' os hinv.1 (hok s i hi) hs

/-- Further steps may raise the rank if each of them lowers another one, which comes first and which
the others do not raise. -/
def Ranking.extend [LT α] {β : Type*} [PartialOrder β] (R : Ranking M ok α) {ok' : σ → ι → Prop}
    (P : σ → Prop) (outer : σ → β)
    (hstep : ∀ s i s' os, R.Inv s → P s → ok' s i → M.step s i = some (s', os) →
      (R.Inv s' ∧ P s') ∧ (outer s' < outer s ∨ ok s i ∧ outer s' ≤ outer s)) :
    Ranking M ok' (β ×ₗ α) where
  Inv s := R.Inv s ∧ P s
  rank s := toLex (outer s, R.rank s)
  keeps s i s' os hinv hi hs := (hstep s i s' os hinv.1 hinv.2 hi hs).1
  lowers s i s' os hinv hi hs := by
    refine Prod.Lex.toLex_lt_toLex.mpr ?_
    rcases (hstep s i s' os hinv.1 hinv.2 hi hs).2 with hlt | ⟨hok, hle⟩
    · exact .inl hlt
    · exact hle.lt_or_eq.imp_right fun heq => ⟨heq, R.lowers s i s' os hinv.1 hok hs⟩

/-- **No execution consists of steps that lower a rank.** -/
theorem Ranking.exists_not_ok [LT α] [WellFoundedLT α] (R : Ranking M ok α) {f : ℕ → σ} {a : ℕ → ι}
    (hinv : R.Inv (f 0)) (h : M.Execution f a) : ∃ n, ¬ ok (f n) (a n) := by
  by_contra hall
  have hok : ∀ n, ok (f n) (a n) := fun n => not_not.mp fun hn => hall ⟨n, hn⟩
  have hInv : ∀ n, R.Inv (f n) := by
    intro n
    induction n with
    | zero => exact hinv
    | succ n ih =>
      obtain ⟨os, hs⟩ := h n
      exact R.keeps _ _ _ _ ih (hok n) hs
  obtain ⟨n, hn⟩ := WellFounded.not_rel_apply_succ (r := (· < ·)) fun n => R.rank (f n)
  obtain ⟨os, hs⟩ := h n
  exact hn (R.lowers _ _ _ _ (hInv n) (hok n) hs)

/-- In an infinite execution from the initial state, steps that do not meet `ok` come up again and
again, if every state that is reached has a rank. -/
theorem Execution.exists_ge_not_ok [LT α] [WellFoundedLT α] {f : ℕ → σ} {a : ℕ → ι}
    (h : M.Execution f a) (hinit : f 0 = M.init)
    (hrank : ∀ is s os, M.Run is s os → ∃ R : Ranking M ok α, R.Inv s) (n : ℕ) :
    ∃ m, n ≤ m ∧ ¬ ok (f m) (a m) := by
  obtain ⟨is, os, hrun⟩ := h.run n
  rw [hinit] at hrun
  obtain ⟨R, hinv⟩ := hrank is (f n) os hrun
  obtain ⟨k, hk⟩ := R.exists_not_ok (f := fun k => f (n + k)) hinv (h.drop n)
  exact ⟨n + k, Nat.le_add_right n k, hk⟩

/-! ### What is inevitable -/

variable (M ok) in
/-- Whatever steps that meet `ok` are taken from here, they end, and where they end `Q` holds. -/
inductive Inevitable (Q : σ → Prop) : σ → Prop
  | intro {s : σ} (hlast : (∀ i, ok s i → M.step s i = none) → Q s)
      (hstep : ∀ i s' os, ok s i → M.step s i = some (s', os) → Inevitable Q s') : Inevitable Q s

/-- **The rule for what is inevitable**: the steps lower a rank, and where they end the property
holds. -/
theorem Ranking.inevitable [LT α] [WellFoundedLT α] (R : Ranking M ok α) {Q : σ → Prop}
    (hQ : ∀ s, R.Inv s → (∀ i, ok s i → M.step s i = none) → Q s) {s : σ} (hinv : R.Inv s) :
    M.Inevitable ok Q s := by
  induction hrank : R.rank s using WellFoundedLT.induction generalizing s with
  | ind r ih =>
    refine ⟨hQ s hinv, fun i s' os hok hs => ?_⟩
    have hlt : R.rank s' < r := hrank ▸ R.lowers s i s' os hinv hok hs
    exact ih _ hlt (R.keeps s i s' os hinv hok hs) rfl

/-- What the steps keep can be used where they end. -/
theorem Inevitable.imp_of_invariant {P Q Q' : σ → Prop} {s : σ} (h : M.Inevitable ok Q s)
    (hkeeps : ∀ s i s' os, P s → ok s i → M.step s i = some (s', os) → P s')
    (hQ : ∀ s, P s → Q s → Q' s) (hP : P s) : M.Inevitable ok Q' s := by
  induction h with
  | @intro s hlast hstep ih =>
    exact ⟨fun hend => hQ s hP (hlast hend),
      fun i s' os hok hs => ih i s' os hok hs (hkeeps s i s' os hP hok hs)⟩

/-- There is a run to an end of the way. -/
theorem Inevitable.exists_last {Q : σ → Prop} {s : σ} (h : M.Inevitable ok Q s) :
    ∃ is s' os, M.RunWhere ok s is s' os ∧ Q s' := by
  induction h with
  | @intro s hlast hstep ih =>
    by_cases hend : ∀ i, ok s i → M.step s i = none
    · exact ⟨[], s, [], .nil, hlast hend⟩
    · obtain ⟨i, hi⟩ := not_forall.mp hend
      obtain ⟨hok, hne⟩ := Classical.not_imp.mp hi
      obtain ⟨⟨s', os⟩, hs⟩ := Option.ne_none_iff_exists'.mp hne
      obtain ⟨is, s'', os', hrun, hQ⟩ := ih i s' os hok hs
      exact ⟨_, s'', _, (RunWhere.single hok hs).trans hrun, hQ⟩

/-! ### Sums over the components of a state -/

/-- A sum of which one summand changes. -/
theorem sum_add_eq_of_ne {κ : Type*} {T : Finset κ} {f g : κ → ℕ} {k : κ} (hk : k ∈ T)
    (h : ∀ j, j ≠ k → g j = f j) : ∑ j ∈ T, g j + f k = ∑ j ∈ T, f j + g k := by
  classical
  have hrest : ∑ j ∈ T.erase k, g j = ∑ j ∈ T.erase k, f j :=
    Finset.sum_congr rfl fun j hj => h j (Finset.ne_of_mem_erase hj)
  rw [← Finset.add_sum_erase T g hk, ← Finset.add_sum_erase T f hk, hrest]
  omega

end LabelledSystem

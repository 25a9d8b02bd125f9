import Mathlib.Data.List.Basic
import Mathlib.Data.List.Infix
import Mathlib.Tactic.Common

/-!
# Labelled transition systems given by a partial step function

`M.step s i = some (s', os)` says that the input `i` takes `s` to `s'` and emits the events `os`;
`none` says that `i` is not enabled in `s`.  A run is a list of inputs; `RunWhere ok` is a run
every step of which meets the condition `ok` on the state before the step and the input.

* `RunWhere.invariant`: what every step preserves holds of every run.
* `RunWhere.exists_step_of_mem`: an event of a run was emitted by one of its steps.
* `RunWhere.unwind`: leaving out the inputs that do nothing visible leaves the visible events.
* `RunWhere.lockstep_iff`: when two systems agree at every moment of a run.
* `execFrom_map`: a function that commutes with the steps commutes with executions.
* `Simulation.run`: a system whose steps are finite runs of an abstract system has only runs that
  are runs of the abstract system.
-/

/-- An initial state and a partial step function emitting events. -/
structure LabelledSystem (σ ι ο : Type*) where
  /-- The state every run starts from. -/
  init : σ
  /-- The state after an input and the events it emits, if the input is enabled. -/
  step : σ → ι → Option (σ × List ο)

namespace LabelledSystem

variable {σ ι ο : Type*} (M : LabelledSystem σ ι ο)

/-! ### Runs -/

/-- A run from `s₀` on the inputs `is`, ending in `s` and emitting `os`, all of whose steps meet
`ok`. -/
inductive RunWhere (ok : σ → ι → Prop) (s₀ : σ) : List ι → σ → List ο → Prop
  | nil : RunWhere ok s₀ [] s₀ []
  | snoc {is : List ι} {s : σ} {os : List ο} {i : ι} {s' : σ} {os' : List ο} :
      RunWhere ok s₀ is s os → ok s i → M.step s i = some (s', os') →
      RunWhere ok s₀ (is ++ [i]) s' (os ++ os')

/-- A run from `s₀` with no condition on its steps. -/
abbrev RunFrom (s₀ : σ) (is : List ι) (s : σ) (os : List ο) : Prop :=
  M.RunWhere (fun _ _ => True) s₀ is s os

/-- A run from the initial state. -/
abbrev Run (is : List ι) (s : σ) (os : List ο) : Prop :=
  M.RunFrom M.init is s os

variable {M}

namespace RunWhere

variable {ok : σ → ι → Prop} {s₀ : σ}

/-- **The invariant rule**: what holds at the start and is preserved by every step that meets the
condition holds at the end of every run that meets it. -/
theorem invariant {P : σ → List ο → Prop} (hinit : P s₀ [])
    (hstep : ∀ s os i s' os', P s os → ok s i → M.step s i = some (s', os') → P s' (os ++ os'))
    {is : List ι} {s : σ} {os : List ο} (h : M.RunWhere ok s₀ is s os) : P s os := by
  induction h with
  | nil => exact hinit
  | snoc _ hok hs ih => exact hstep _ _ _ _ _ ih hok hs

/-- The invariant rule for a property of states only. -/
theorem state_invariant {P : σ → Prop} (hinit : P s₀)
    (hstep : ∀ s i s' os', P s → ok s i → M.step s i = some (s', os') → P s')
    {is : List ι} {s : σ} {os : List ο} (h : M.RunWhere ok s₀ is s os) : P s :=
  h.invariant (P := fun s _ => P s) hinit fun s _ i s' os' hP hok hs => hstep s i s' os' hP hok hs

theorem single {i : ι} {s : σ} {os : List ο} (hok : ok s₀ i) (hs : M.step s₀ i = some (s, os)) :
    M.RunWhere ok s₀ [i] s os := by
  simpa using RunWhere.snoc (RunWhere.nil (M := M)) hok hs

theorem trans {is is' : List ι} {s s' : σ} {os os' : List ο} (h : M.RunWhere ok s₀ is s os)
    (h' : M.RunWhere ok s is' s' os') : M.RunWhere ok s₀ (is ++ is') s' (os ++ os') := by
  induction h' with
  | nil => simpa using h
  | snoc _ hok hs ih =>
    rw [← List.append_assoc, ← List.append_assoc]
    exact .snoc ih hok hs

/-- The last step of a run. -/
theorem snoc_inv {is : List ι} {i : ι} {s' : σ} {os : List ο}
    (h : M.RunWhere ok s₀ (is ++ [i]) s' os) :
    ∃ s os₁ os₂, M.RunWhere ok s₀ is s os₁ ∧ ok s i ∧ M.step s i = some (s', os₂) ∧
      os = os₁ ++ os₂ := by
  generalize his : is ++ [i] = is' at h
  cases h with
  | nil => simp at his
  | @snoc is₁ s os₁ j s' os₂ hr hok hs =>
    obtain ⟨rfl, rfl⟩ := List.append_singleton_inj.mp his
    exact ⟨s, os₁, os₂, hr, hok, hs, rfl⟩

/-- The inputs determine where a run ends and what it emits. -/
theorem deterministic {ok' : σ → ι → Prop} {is : List ι} {s s' : σ} {os os' : List ο}
    (h : M.RunWhere ok s₀ is s os) (h' : M.RunWhere ok' s₀ is s' os') : s = s' ∧ os = os' := by
  induction h generalizing s' os' with
  | nil =>
    generalize his : ([] : List ι) = is' at h'
    cases h' with
    | nil => exact ⟨rfl, rfl⟩
    | snoc => simp at his
  | snoc _ _ hs ih =>
    obtain ⟨s₁, os₁, os₂, hr, -, hs', rfl⟩ := h'.snoc_inv
    obtain ⟨rfl, rfl⟩ := ih hr
    obtain ⟨rfl, rfl⟩ : _ = s' ∧ _ = os₂ := by simpa using hs.symm.trans hs'
    exact ⟨rfl, rfl⟩

/-- **The exact condition**: if a step preserves `P` exactly when it meets `ok`, and nothing else
re-establishes `P`, then `P` holds at the end of a run exactly when all its steps meet `ok`. -/
theorem iff_of_step {I P : σ → Prop} (hI₀ : I s₀) (hP₀ : P s₀)
    (hI : ∀ s i s' os, I s → M.step s i = some (s', os) → I s')
    (hP : ∀ s i s' os, I s → M.step s i = some (s', os) → (P s' ↔ P s ∧ ok s i))
    {is : List ι} {s : σ} {os : List ο} (h : M.RunFrom s₀ is s os) :
    P s ↔ M.RunWhere ok s₀ is s os := by
  induction h with
  | nil => exact iff_of_true hP₀ .nil
  | @snoc is s os i s' os' hr _ hs ih =>
    have hinv : I s := hr.state_invariant hI₀ fun s i s' os hs' _ => hI s i s' os hs'
    rw [hP s i s' os' hinv hs, ih]
    constructor
    · rintro ⟨hwhere, hok⟩
      exact hwhere.snoc hok hs
    · intro hwhere
      obtain ⟨s₁, os₁, os₂, hwhere₁, hok, -, -⟩ := hwhere.snoc_inv
      obtain ⟨rfl, rfl⟩ := hwhere₁.deterministic hr
      exact ⟨hwhere₁, hok⟩

/-- Two conditions that agree on the enabled steps of invariant states are met by the same runs. -/
theorem congr_of_invariant {I : σ → Prop} {ok' : σ → ι → Prop} (hI₀ : I s₀)
    (hI : ∀ s i s' os, I s → M.step s i = some (s', os) → I s')
    (hiff : ∀ s i s' os, I s → M.step s i = some (s', os) → (ok s i ↔ ok' s i))
    {is : List ι} {s : σ} {os : List ο} :
    M.RunWhere ok s₀ is s os ↔ M.RunWhere ok' s₀ is s os := by
  have hinv : ∀ {ok : σ → ι → Prop} {is s os}, M.RunWhere ok s₀ is s os → I s := fun h =>
    h.state_invariant hI₀ fun s i s' os hs _ => hI s i s' os hs
  constructor
  · intro h
    induction h with
    | nil => exact .nil
    | snoc hr hok hs ih => exact ih.snoc ((hiff _ _ _ _ (hinv hr) hs).mp hok) hs
  · intro h
    induction h with
    | nil => exact .nil
    | snoc hr hok hs ih => exact ih.snoc ((hiff _ _ _ _ (hinv hr) hs).mpr hok) hs

/-- A condition on the inputs only, added to a condition on the steps. -/
theorem and_forall {P : ι → Prop} {is : List ι} {s : σ} {os : List ο}
    (h : M.RunWhere ok s₀ is s os) (hall : ∀ i ∈ is, P i) :
    M.RunWhere (fun s i => ok s i ∧ P i) s₀ is s os := by
  induction h with
  | nil => exact .nil
  | snoc _ hok hs ih =>
    rw [List.forall_mem_append] at hall
    exact (ih hall.1).snoc ⟨hok, hall.2 _ (List.mem_singleton_self _)⟩ hs

/-- **Every event has an origin**: an event of a run was emitted by a step of it, with a run up to
that step and a run from it to the end. -/
theorem exists_step_of_mem {is : List ι} {s : σ} {os : List ο} {o : ο}
    (h : M.RunWhere ok s₀ is s os) (ho : o ∈ os) :
    ∃ is₁ s₁ os₁ i s₂ os₂ is₃ os₃, M.RunWhere ok s₀ is₁ s₁ os₁ ∧ ok s₁ i ∧
      M.step s₁ i = some (s₂, os₂) ∧ o ∈ os₂ ∧ M.RunWhere ok s₂ is₃ s os₃ ∧
      os = os₁ ++ os₂ ++ os₃ := by
  induction h with
  | nil => simp at ho
  | @snoc is s os i s' os' hr hok hs ih =>
    rcases List.mem_append.mp ho with ho | ho
    · obtain ⟨is₁, s₁, os₁, j, s₂, os₂, is₃, os₃, hr₁, hj, hs₁, ho₂, hr₃, rfl⟩ := ih ho
      exact ⟨is₁, s₁, os₁, j, s₂, os₂, is₃ ++ [i], os₃ ++ os', hr₁, hj, hs₁, ho₂,
        hr₃.snoc hok hs, by simp⟩
    · exact ⟨is, s, os, i, s', os', [], [], hr, hok, hs, ho, .nil, by simp⟩

/-- **Unwinding**: let a relation between the states of two systems be kept by the steps on inputs
that are left out, which emit nothing visible, and let a step on an input that is kept be matched
by a step on the same input with the same visible events.  Then a run of the first system without
the inputs that are left out is a run of the second one, with the same visible events. -/
theorem unwind {τ : Type*} {N : LabelledSystem τ ι ο} {R : σ → τ → Prop} {t₀ : τ}
    (keep : ι → Bool) (visible : ο → Bool) (hinit : R s₀ t₀)
    (hout : ∀ s t i s' os, R s t → ok s i → keep i = false → M.step s i = some (s', os) →
      R s' t ∧ os.filter visible = [])
    (hkeep : ∀ s t i s' os, R s t → ok s i → keep i = true → M.step s i = some (s', os) →
      ∃ t', N.step t i = some (t', os.filter visible) ∧ R s' t')
    {is : List ι} {s : σ} {os : List ο} (h : M.RunWhere ok s₀ is s os) :
    ∃ t, N.RunFrom t₀ (is.filter keep) t (os.filter visible) ∧ R s t := by
  induction h with
  | nil => exact ⟨t₀, .nil, hinit⟩
  | @snoc is s os i s' os' _ hok hs ih =>
    obtain ⟨t, hrun, hR⟩ := ih
    rw [List.filter_append, List.filter_append, List.filter_singleton]
    cases hi : keep i with
    | false =>
      obtain ⟨hR', hnil⟩ := hout s t i s' os' hR hok hi hs
      refine ⟨t, ?_, hR'⟩
      rw [hnil]
      simpa using hrun
    | true =>
      obtain ⟨t', hs', hR'⟩ := hkeep s t i s' os' hR hok hi hs
      exact ⟨t', hrun.snoc trivial hs', hR'⟩

/-- **Systems in lockstep**: let the steps of related states emit the same events and lead to
related states exactly when they meet `ok`.  Then the states of two runs on the same inputs are
related at every moment exactly when all steps meet `ok`. -/
theorem lockstep_iff {τ : Type*} {N : LabelledSystem τ ι ο} {R : σ → τ → Prop} {t₀ : τ}
    (hinit : R s₀ t₀)
    (hstep : ∀ s t i s' os, R s t → M.step s i = some (s', os) →
      ∃ t', N.step t i = some (t', os) ∧ (R s' t' ↔ ok s i))
    {is : List ι} {s : σ} {os : List ο} (h : M.RunFrom s₀ is s os) :
    (∀ is₁ s₁ os₁, is₁ <+: is → M.RunFrom s₀ is₁ s₁ os₁ →
      ∃ t₁, N.RunFrom t₀ is₁ t₁ os₁ ∧ R s₁ t₁) ↔ M.RunWhere ok s₀ is s os := by
  induction h with
  | nil =>
    refine iff_of_true (fun is₁ s₁ os₁ hpre hrun => ?_) .nil
    obtain rfl := List.prefix_nil.mp hpre
    obtain ⟨rfl, rfl⟩ := hrun.deterministic (.nil : M.RunFrom s₀ [] s₀ [])
    exact ⟨t₀, .nil, hinit⟩
  | @snoc is s os i s' os' hr _ hs ih =>
    have hrun' : M.RunFrom s₀ (is ++ [i]) s' (os ++ os') := hr.snoc trivial hs
    constructor
    · intro hall
      obtain ⟨t, hrun, hR⟩ := hall is s os (List.prefix_append _ _) hr
      obtain ⟨t', hs', hiff⟩ := hstep s t i s' os' hR hs
      -- the other system takes the same step, so it ends in the related state
      obtain ⟨t'', hrun'', hR''⟩ := hall _ s' _ List.prefix_rfl hrun'
      obtain ⟨rfl, -⟩ := hrun''.deterministic (hrun.snoc trivial hs')
      exact (ih.mp fun is₁ s₁ os₁ hpre => hall is₁ s₁ os₁
        (hpre.trans (List.prefix_append _ _))).snoc (hiff.mp hR'') hs
    · intro hwhere is₁ s₁ os₁ hpre hrun₁
      obtain ⟨s₂, os₁', os₂, hwhere₂, hok, -, -⟩ := hwhere.snoc_inv
      obtain ⟨rfl, rfl⟩ := hwhere₂.deterministic hr
      rcases List.prefix_concat_iff.mp hpre with rfl | hpre
      · obtain ⟨rfl, rfl⟩ := hrun₁.deterministic hrun'
        obtain ⟨t, hrun, hR⟩ := ih.mpr hwhere₂ is s₂ os₁' List.prefix_rfl hr
        obtain ⟨t', hs', hiff⟩ := hstep s₂ t i _ os' hR hs
        exact ⟨t', hrun.snoc trivial hs', hiff.mpr hok⟩
      · exact ih.mpr hwhere₂ is₁ s₁ os₁ hpre hrun₁

end RunWhere

/-! ### Executing a list of inputs -/

variable (M)

/-- Run the inputs from `s`, collecting the events; `none` if some input is not enabled. -/
def execFrom (s : σ) : List ι → Option (σ × List ο)
  | [] => some (s, [])
  | i :: is =>
    match M.step s i with
    | none => none
    | some (s', os) =>
      match execFrom s' is with
      | none => none
      | some (s'', os') => some (s'', os ++ os')

/-- Run the inputs from the initial state. -/
def exec (is : List ι) : Option (σ × List ο) :=
  M.execFrom M.init is

/-- Do the steps of an execution meet `ok`? -/
def meets (ok : σ → ι → Prop) [∀ s i, Decidable (ok s i)] (s : σ) : List ι → Bool
  | [] => true
  | i :: is =>
    decide (ok s i) &&
      match M.step s i with
      | none => true
      | some (s', _) => meets ok s' is

variable {M}

theorem runFrom_of_execFrom {is : List ι} {s₀ s : σ} {os : List ο}
    (h : M.execFrom s₀ is = some (s, os)) : M.RunFrom s₀ is s os := by
  induction is generalizing s₀ os with
  | nil =>
    obtain ⟨rfl, rfl⟩ : s₀ = s ∧ [] = os := by simpa [execFrom] using h
    exact .nil
  | cons i is ih =>
    rw [execFrom] at h
    split at h
    · cases h
    · rename_i s₁ os₁ hs
      split at h
      · cases h
      · rename_i s₂ os₂ hrest
        obtain ⟨rfl, rfl⟩ : s₂ = s ∧ os₁ ++ os₂ = os := by simpa using h
        exact (RunWhere.single trivial hs).trans (ih hrest)

theorem run_of_exec {is : List ι} {s : σ} {os : List ο} (h : M.exec is = some (s, os)) :
    M.Run is s os :=
  runFrom_of_execFrom h

/-- The result of an execution is a run. -/
theorem run_exec_get {is : List ι} (h : (M.exec is).isSome = true) :
    M.Run is ((M.exec is).get h).1 ((M.exec is).get h).2 :=
  run_of_exec (Option.some_get h).symm

theorem runWhere_of_execFrom {ok : σ → ι → Prop} [∀ s i, Decidable (ok s i)] {is : List ι}
    {s₀ s : σ} {os : List ο} (h : M.execFrom s₀ is = some (s, os)) (hok : M.meets ok s₀ is = true) :
    M.RunWhere ok s₀ is s os := by
  induction is generalizing s₀ os with
  | nil =>
    obtain ⟨rfl, rfl⟩ : s₀ = s ∧ [] = os := by simpa [execFrom] using h
    exact .nil
  | cons i is ih =>
    rw [execFrom] at h
    rw [meets, Bool.and_eq_true, decide_eq_true_iff] at hok
    obtain ⟨hi, hrest⟩ := hok
    cases hs : M.step s₀ i with
    | none => simp [hs] at h
    | some p =>
      obtain ⟨s₁, os₁⟩ := p
      rw [hs] at h hrest
      cases hex : M.execFrom s₁ is with
      | none => simp [hex] at h
      | some q =>
        obtain ⟨rfl, rfl⟩ : q.1 = s ∧ os₁ ++ q.2 = os := by simpa [hex] using h
        exact (RunWhere.single hi hs).trans (ih hex hrest)

/-- **A function that commutes with the steps commutes with executions**: from states that meet an
invariant, the same inputs are enabled in both systems and emit the same events. -/
theorem execFrom_map {τ : Type*} {N : LabelledSystem τ ι ο} {f : σ → τ} {I : σ → Prop}
    (hstep : ∀ s i, I s → (M.step s i).map (fun p => (f p.1, p.2)) = N.step (f s) i)
    (hI : ∀ s i s' os, I s → M.step s i = some (s', os) → I s') {s : σ} (hs : I s) (is : List ι) :
    (M.execFrom s is).map (fun p => (f p.1, p.2)) = N.execFrom (f s) is := by
  induction is generalizing s with
  | nil => rfl
  | cons i is ih =>
    rw [execFrom, execFrom, ← hstep s i hs]
    cases hMi : M.step s i with
    | none => rfl
    | some p =>
      obtain ⟨s', os⟩ := p
      dsimp only [Option.map_some]
      rw [← ih (hI s i s' os hs hMi)]
      cases M.execFrom s' is <;> rfl

/-! ### Simulation by an abstract system -/

/-- Every step of `M` is a finite run of `A` emitting the events of the step that `A` knows. -/
structure Simulation {τ κ π : Type*} (M : LabelledSystem σ ι ο) (A : LabelledSystem τ κ π) where
  /-- The relation between concrete and abstract states. -/
  Rel : σ → τ → Prop
  /-- The abstract event of a concrete one, if it has one. -/
  erase : ο → Option π
  /-- The initial states are related. -/
  init : Rel M.init A.init
  /-- Each concrete step is matched by a run of the abstract system. -/
  step : ∀ s a i s' os, Rel s a → M.step s i = some (s', os) →
    ∃ js a', A.RunFrom a js a' (os.filterMap erase) ∧ Rel s' a'

/-- **Runs are simulated**: the events of a concrete run that the abstract system knows are the
events of an abstract run ending in a related state. -/
theorem Simulation.run {τ κ π : Type*} {A : LabelledSystem τ κ π} (S : Simulation M A)
    {is : List ι} {s : σ} {os : List ο} (h : M.Run is s os) :
    ∃ js a, A.Run js a (os.filterMap S.erase) ∧ S.Rel s a := by
  induction h with
  | nil => exact ⟨[], A.init, .nil, S.init⟩
  | snoc _ _ hs ih =>
    obtain ⟨js, a, hrun, hrel⟩ := ih
    obtain ⟨js', a', hrun', hrel'⟩ := S.step _ a _ _ _ hrel hs
    refine ⟨js ++ js', a', ?_, hrel'⟩
    rw [List.filterMap_append]
    exact hrun.trans hrun'

end LabelledSystem

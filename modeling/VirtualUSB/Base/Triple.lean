import Mathlib.Logic.Basic
import Mathlib.Tactic.Common

/-!
# Programs that keep a state and can throw

`Prog σ ε α` is a program with a state `σ` that returns an `α` or throws an `ε`; what was changed
before an exception stays changed.  `Triple P x Q E` says what holds after `x` if `P` holds before:
`Q` if it returns, `E` if it throws.

* `Triple.pure`, `throw`, `read`, `update`, `bind`: the rules for the parts of a program.
* `Triple.weaken`: the rule of consequence.
-/

/-- A program with a state that returns a value or throws. -/
def Prog (σ ε α : Type) : Type := σ → Except ε α × σ

namespace Prog

variable {σ ε α β : Type}

/-- Run a program on a state. -/
def run (x : Prog σ ε α) (s : σ) : Except ε α × σ := x s

instance : Monad (Prog σ ε) where
  pure a := fun s => (.ok a, s)
  bind x f := fun s =>
    match x s with
    | (.ok a, s') => f a s'
    | (.error e, s') => (.error e, s')

/-- Throw an exception. -/
def throw (e : ε) : Prog σ ε α := fun s => (.error e, s)

/-- The state. -/
def read : Prog σ ε σ := fun s => (.ok s, s)

/-- Change the state. -/
def update (f : σ → σ) : Prog σ ε Unit := fun s => (.ok (), f s)

@[simp] theorem run_pure (a : α) (s : σ) : (pure a : Prog σ ε α).run s = (.ok a, s) := rfl

@[simp] theorem run_throw (e : ε) (s : σ) : (throw e : Prog σ ε α).run s = (.error e, s) := rfl

@[simp] theorem run_read (s : σ) : (read : Prog σ ε σ).run s = (.ok s, s) := rfl

@[simp] theorem run_update (f : σ → σ) (s : σ) : (update f : Prog σ ε Unit).run s = (.ok (), f s) :=
  rfl

theorem run_bind (x : Prog σ ε α) (f : α → Prog σ ε β) (s : σ) :
    (x >>= f).run s =
      match x.run s with
      | (.ok a, s') => (f a).run s'
      | (.error e, s') => (.error e, s') := rfl

end Prog

/-! ### Triples -/

/-- If `P` holds before `x`, then `Q` holds when it returns and `E` when it throws. -/
def Triple {σ ε α : Type} (P : σ → Prop) (x : Prog σ ε α) (Q : α → σ → Prop) (E : ε → σ → Prop) :
    Prop :=
  ∀ s, P s →
    match x.run s with
    | (.ok a, s') => Q a s'
    | (.error e, s') => E e s'

namespace Triple

variable {σ ε α β : Type} {P : σ → Prop} {Q : α → σ → Prop} {E : ε → σ → Prop}

theorem pure {a : α} (h : ∀ s, P s → Q a s) : Triple P (Pure.pure a) Q E := h

theorem throw {e : ε} (h : ∀ s, P s → E e s) : Triple P (Prog.throw e) Q E := h

theorem read {Q : σ → σ → Prop} (h : ∀ s, P s → Q s s) : Triple P Prog.read Q E := h

theorem update {Q : Unit → σ → Prop} {f : σ → σ} (h : ∀ s, P s → Q () (f s)) :
    Triple P (Prog.update f) Q E := h

theorem weaken {P' : σ → Prop} {Q' : α → σ → Prop} {E' : ε → σ → Prop} {x : Prog σ ε α}
    (h : Triple P x Q E) (hP : ∀ s, P' s → P s) (hQ : ∀ a s, Q a s → Q' a s)
    (hE : ∀ e s, E e s → E' e s) : Triple P' x Q' E' := by
  intro s hs
  have hx := h s (hP s hs)
  rcases hrun : x.run s with ⟨e | a, s'⟩
  · rw [hrun] at hx
    exact hE e s' hx
  · rw [hrun] at hx
    exact hQ a s' hx

/-- One part after another. -/
theorem bind {R : β → σ → Prop} {x : Prog σ ε α} {f : α → Prog σ ε β} (hx : Triple P x Q E)
    (hf : ∀ a, Triple (Q a) (f a) R E) : Triple P (x >>= f) R E := by
  intro s hs
  have hfirst := hx s hs
  rw [Prog.run_bind]
  rcases hrun : x.run s with ⟨e | a, s'⟩
  · rw [hrun] at hfirst
    exact hfirst
  · rw [hrun] at hfirst
    exact hf a s' hfirst

/-- The rule for a condition. -/
theorem ite {c : Prop} [Decidable c] {x y : Prog σ ε α} (hx : c → Triple P x Q E)
    (hy : ¬ c → Triple P y Q E) : Triple P (if c then x else y) Q E := by
  split_ifs with h
  · exact hx h
  · exact hy h

/-- The state in a triple can be named. -/
theorem named {x : Prog σ ε α} (h : ∀ s, P s → Triple (· = s) x Q E) : Triple P x Q E :=
  fun s hs => h s hs s rfl

end Triple

import Mathlib.Data.List.Basic

/-!
# Computations that record what they read

A value of `Tracked ρ α` is the result of a computation together with the list of its reads.  Only
`load` and `loads` record a read, so a computation that gets at the memory through them alone
records every read it makes and no other.

`Within P` says that all reads meet `P`; it is computed along the computation (`within_bind`).
-/

universe u

/-- A result and the reads made for it, in order. -/
structure Tracked (ρ α : Type*) where
  val : α
  reads : List ρ

namespace Tracked

variable {ρ : Type*} {α β : Type u}

/-! ### Reading -/

instance : Monad (Tracked ρ) where
  pure a := ⟨a, []⟩
  bind x f := ⟨(f x.val).val, x.reads ++ (f x.val).reads⟩

/-- Read one place. -/
def load (r : ρ) (a : α) : Tracked ρ α := ⟨a, [r]⟩

/-- Read several places, one after the other. -/
def loads (rs : List ρ) (a : α) : Tracked ρ α := ⟨a, rs⟩

@[simp] theorem val_pure (a : α) : (pure a : Tracked ρ α).val = a := rfl

@[simp] theorem val_load (r : ρ) (a : α) : (load r a).val = a := rfl

@[simp] theorem val_loads (rs : List ρ) (a : α) : (loads rs a).val = a := rfl

@[simp] theorem val_bind (x : Tracked ρ α) (f : α → Tracked ρ β) :
    (x >>= f).val = (f x.val).val := rfl

/-! ### Where a computation reads -/

/-- All reads meet the condition. -/
def Within (P : ρ → Prop) (x : Tracked ρ α) : Prop :=
  ∀ r ∈ x.reads, P r

variable {P : ρ → Prop}

@[simp] theorem within_pure (a : α) : (pure a : Tracked ρ α).Within P ↔ True :=
  iff_true_intro fun _ hr => (List.not_mem_nil hr).elim

@[simp] theorem within_load (r : ρ) (a : α) : (load r a).Within P ↔ P r :=
  List.forall_mem_singleton

@[simp] theorem within_loads (rs : List ρ) (a : α) : (loads rs a).Within P ↔ ∀ r ∈ rs, P r :=
  Iff.rfl

@[simp] theorem within_bind (x : Tracked ρ α) (f : α → Tracked ρ β) :
    (x >>= f).Within P ↔ x.Within P ∧ (f x.val).Within P :=
  List.forall_mem_append

end Tracked

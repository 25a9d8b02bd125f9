import Mathlib.Data.List.Basic
import Mathlib.Tactic.Common

/-!
# Objects that have to be released

A `Ledger` counts the objects that were obtained and lists those that were released.  `Holds os`
says that exactly the objects `os` are held: they have not been released, and every other object
that was obtained was released once.

* `Holds.acquire`, `Holds.release`: what is held changes by the object obtained or released.
* `Holds.released_once`: when nothing is held, each object was released exactly once.
-/

/-- The objects obtained, numbered in this order, and the objects released, the last one first. -/
structure Ledger where
  obtained : ℕ := 0
  released : List ℕ := []
  deriving DecidableEq, Repr

namespace Ledger

/-- A new object. -/
def acquire (l : Ledger) : ℕ × Ledger :=
  (l.obtained, { l with obtained := l.obtained + 1 })

def release (l : Ledger) (o : ℕ) : Ledger :=
  { l with released := o :: l.released }

/-- The object behind a pointer is released; the null pointer is allowed. -/
def unref (l : Ledger) : Option ℕ → Ledger
  | none => l
  | some o => l.release o

/-- Exactly the objects `os` are held. -/
def Holds (l : Ledger) (os : List ℕ) : Prop :=
  ∀ o, l.released.count o + os.count o = if o < l.obtained then 1 else 0

variable {l : Ledger} {o : ℕ} {os : List ℕ}

theorem holds_init : ({} : Ledger).Holds [] :=
  fun _ => rfl

theorem Holds.acquire (h : l.Holds os) : l.acquire.2.Holds (l.acquire.1 :: os) := by
  intro o
  have hold := h o
  show l.released.count o + (l.obtained :: os).count o = if o < l.obtained + 1 then 1 else 0
  rcases Nat.lt_trichotomy o l.obtained with hlt | rfl | hgt
  · rw [if_pos hlt] at hold
    rw [if_pos (by omega), List.count_cons_of_ne (by omega), hold]
  · rw [if_neg (Nat.lt_irrefl _)] at hold
    rw [if_pos (by omega), List.count_cons_self]
    omega
  · rw [if_neg (by omega)] at hold
    rw [if_neg (by omega), List.count_cons_of_ne (by omega), hold]

theorem Holds.release (h : l.Holds (o :: os)) : (l.release o).Holds os := by
  intro o'
  have hold := h o'
  rw [List.count_cons] at hold
  show (o :: l.released).count o' + os.count o' = if o' < l.obtained then 1 else 0
  rw [List.count_cons, ← hold]
  omega

/-- An object that is obtained and released at once leaves what is held as it is. -/
theorem Holds.acquire_release (h : l.Holds os) : (l.acquire.2.release l.acquire.1).Holds os :=
  h.acquire.release

/-- **Nothing is held**: each object obtained was released exactly once. -/
theorem Holds.released_once (h : l.Holds []) (ho : o < l.obtained) : l.released.count o = 1 := by
  have hcount := h o
  rw [if_pos ho] at hcount
  simpa using hcount

/-- An object that is held is not released. -/
theorem Holds.not_released (h : l.Holds (o :: os)) :
    o < l.obtained ∧ l.released.count o = 0 := by
  have hcount := h o
  rw [List.count_cons_self] at hcount
  split_ifs at hcount with hlt
  · exact ⟨hlt, by omega⟩

end Ledger

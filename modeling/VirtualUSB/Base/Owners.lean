import Mathlib.Algebra.BigOperators.Group.Finset.Basic
import VirtualUSB.Base.LabelledSystem

/-!
# Counting the owners of shared objects

Variables own objects, and events say that an object gets or loses an owner.  `Conserves n n' evs`
says that events are right when the objects have `n` owners before and `n'` owners afterwards: the
numbers agree, and no event touches an object that has no owner at that moment.

* `owners_update`: changing one variable changes the owners of two objects.
* `Conserves.give`, `borrow`, `share`, `drop`, `trans`: the rules for single events and for
  sequences.
* `Conserves.run`, `Conserves.counted`: what every step conserves is conserved by every run, which
  counts the owners if there were none at the beginning.
-/

open Finset

namespace Owners

variable {V T : Type*} [Fintype V] [DecidableEq T]

/-! ### Owners -/

/-- How often a variable owns an object. -/
def owns (c : Option T) (t : T) : ℕ :=
  if c = some t then 1 else 0

/-- The number of variables that own an object. -/
def owners (vars : V → Option T) (t : T) : ℕ :=
  ∑ v, owns (vars v) t

@[simp] theorem owns_none (t : T) : owns none t = 0 := rfl

theorem owners_update [DecidableEq V] (vars : V → Option T) (x : V) (c : Option T) (t : T) :
    owners (Function.update vars x c) t + owns (vars x) t = owners vars t + owns c t := by
  have hrest : ∑ v ∈ univ.erase x, owns (Function.update vars x c v) t
      = ∑ v ∈ univ.erase x, owns (vars v) t :=
    sum_congr rfl fun v hv => by rw [Function.update_of_ne (ne_of_mem_erase hv)]
  rw [owners, owners, ← add_sum_erase _ _ (mem_univ x), ← add_sum_erase _ _ (mem_univ x), hrest,
    Function.update_self]
  omega

theorem owns_le_owners [DecidableEq V] (vars : V → Option T) (x : V) (t : T) :
    owns (vars x) t ≤ owners vars t := by
  rw [owners, ← add_sum_erase _ _ (mem_univ x)]
  exact Nat.le_add_right _ _

theorem owners_eq_zero_iff [DecidableEq V] {vars : V → Option T} {t : T} :
    owners vars t = 0 ↔ ∀ v, vars v ≠ some t := by
  constructor
  · intro h v hv
    have hle := owns_le_owners vars v t
    rw [h, hv, owns, if_pos rfl] at hle
    omega
  · intro h
    exact sum_eq_zero fun v _ => if_neg (h v)

/-! ### Events -/

/-- What happens to the owners of an object. -/
inductive Event (T : Type*)
  /-- It gets an owner by what happens outside. -/
  | given (t : T)
  /-- It gets an owner besides one outside, which keeps it alive meanwhile. -/
  | borrowed (t : T)
  /-- It gets one more owner. -/
  | shared (t : T)
  /-- It loses an owner. -/
  | dropped (t : T)
  deriving DecidableEq

namespace Event

/-- The event touches an object, which must be alive for it. -/
def Touches (t : T) : Event T → Prop
  | given _ => False
  | borrowed _ => False
  | shared t' => t' = t
  | dropped t' => t' = t

end Event

/-- How many owners an object gained. -/
def gained (t : T) (evs : List (Event T)) : ℕ :=
  evs.count (.given t) + evs.count (.borrowed t) + evs.count (.shared t)

/-- How many owners an object lost. -/
def lost (t : T) (evs : List (Event T)) : ℕ :=
  evs.count (.dropped t)

@[simp] theorem gained_append (t : T) (evs evs' : List (Event T)) :
    gained t (evs ++ evs') = gained t evs + gained t evs' := by
  simp only [gained, List.count_append]
  omega

@[simp] theorem lost_append (t : T) (evs evs' : List (Event T)) :
    lost t (evs ++ evs') = lost t evs + lost t evs' :=
  List.count_append

/-! ### Conservation -/

/-- The events lead from `n` owners to `n'` owners. -/
structure Conserves (n n' : T → ℕ) (evs : List (Event T)) : Prop where
  balance : ∀ t, gained t evs + n t = lost t evs + n' t
  touched : ∀ pre e post, evs = pre ++ e :: post → ∀ t, e.Touches t →
    lost t pre < gained t pre + n t

namespace Conserves

variable {n n' n'' : T → ℕ} {evs evs' : List (Event T)}

theorem refl (n : T → ℕ) : Conserves n n [] :=
  ⟨fun _ => rfl, fun pre e post h => by simp at h⟩

theorem trans (h : Conserves n n' evs) (h' : Conserves n' n'' evs') :
    Conserves n n'' (evs ++ evs') := by
  refine ⟨fun t => ?_, fun pre e post heq t ht => ?_⟩
  · have hfirst := h.balance t
    have hsecond := h'.balance t
    rw [gained_append, lost_append]
    omega
  · rcases List.append_eq_append_iff.mp heq with ⟨as, hpre, hevs'⟩ | ⟨as, hevs, hrest⟩
    · -- the event is one of the second part
      have htouched := h'.touched as e post hevs' t ht
      have hbalance := h.balance t
      rw [hpre, gained_append, lost_append]
      omega
    · cases as with
      | nil =>
        have htouched := h'.touched [] e post hrest.symm t ht
        have hbalance := h.balance t
        rw [List.append_nil] at hevs
        rw [← hevs]
        simp only [gained, lost, List.count_nil] at htouched hbalance ⊢
        omega
      | cons a as =>
        obtain ⟨rfl, -⟩ := List.cons.inj hrest
        exact h.touched pre e as hevs t ht

/-- One event. -/
theorem single {e : Event T} (hbalance : ∀ t, gained t [e] + n t = lost t [e] + n' t)
    (htouched : ∀ t, e.Touches t → 0 < n t) : Conserves n n' [e] := by
  refine ⟨hbalance, fun pre e' post heq t ht => ?_⟩
  cases pre with
  | nil =>
    obtain ⟨rfl, -⟩ := List.cons.inj heq
    have hpos := htouched t ht
    simp only [gained, lost, List.count_nil]
    omega
  | cons a pre => simp at heq

/-- An object is given from outside. -/
theorem give (n : T → ℕ) (c : Option T) :
    Conserves n (fun t => n t + owns c t) (c.toList.map .given) := by
  cases c with
  | none => exact refl n
  | some t₀ =>
    refine single (fun t => ?_) fun t ht => ht.elim
    simp only [gained, lost, owns, List.count_singleton, Option.some.injEq]
    by_cases h : t₀ = t
    · simp [h, Nat.add_comm]
    · simp [h]

/-- An object gets an owner besides one outside. -/
theorem borrow (n : T → ℕ) (t₀ : T) :
    Conserves n (fun t => n t + owns (some t₀) t) [.borrowed t₀] := by
  refine single (fun t => ?_) fun t ht => ht.elim
  simp only [gained, lost, owns, List.count_singleton, Option.some.injEq]
  by_cases h : t₀ = t
  · simp [h, Nat.add_comm]
  · simp [h]

/-- An object that has an owner gets another one. -/
theorem share {c : Option T} (h : ∀ t, owns c t ≤ n t) :
    Conserves n (fun t => n t + owns c t) (c.toList.map .shared) := by
  cases c with
  | none => exact refl n
  | some t₀ =>
    refine single (fun t => ?_) fun t ht => ?_
    · simp only [gained, lost, owns, List.count_singleton, Option.some.injEq]
      by_cases h : t₀ = t
      · simp [h, Nat.add_comm]
      · simp [h]
    · obtain rfl : t₀ = t := ht
      have hone := h t₀
      rw [owns, if_pos rfl] at hone
      omega

/-- An owner gives up its object. -/
theorem drop {c : Option T} (h : ∀ t, n' t + owns c t = n t) :
    Conserves n n' (c.toList.map .dropped) := by
  cases c with
  | none =>
    have hsame : n' = n := funext fun t => h t
    rw [hsame]
    exact refl n
  | some t₀ =>
    refine single (fun t => ?_) fun t ht => ?_
    · rw [← h t]
      simp only [gained, lost, owns, List.count_singleton, Option.some.injEq]
      by_cases h : t₀ = t
      · simp [h, Nat.add_comm]
      · simp [h]
    · obtain rfl : t₀ = t := ht
      have hone := h t₀
      rw [owns, if_pos rfl] at hone
      omega

/-- **What every step conserves is conserved by every run.** -/
theorem run {σ ι : Type*} {M : LabelledSystem σ ι (Event T)} {count : σ → T → ℕ}
    (hstep : ∀ s i s' os, M.step s i = some (s', os) → Conserves (count s) (count s') os)
    {is : List ι} {s : σ} {evs : List (Event T)} (h : M.Run is s evs) :
    Conserves (count M.init) (count s) evs :=
  h.invariant (P := fun s os => Conserves (count M.init) (count s) os) (refl _)
    fun _ _ _ _ _ hP _ hs => hP.trans (hstep _ _ _ _ hs)

/-- **Where nothing had an owner**, the owners of an object are those that it gained and did not
lose, and nothing touches an object that has lost all of its owners. -/
theorem counted (h : Conserves n n' evs) (hzero : ∀ t, n t = 0) :
    (∀ t, gained t evs = lost t evs + n' t) ∧
      ∀ pre e post, evs = pre ++ e :: post → ∀ t, e.Touches t → lost t pre < gained t pre := by
  refine ⟨fun t => ?_, fun pre e post heq t ht => ?_⟩
  · have hbalance := h.balance t
    rwa [hzero, Nat.add_zero] at hbalance
  · have htouched := h.touched pre e post heq t ht
    rwa [hzero, Nat.add_zero] at htouched

end Conserves

end Owners

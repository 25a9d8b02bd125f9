import Mathlib.Data.Fintype.Basic
import VirtualUSB.Toastbox.RefCounted

/-!
# Handles neither leak nor release too much

* `construct_conserves`, …: every call conserves the numbers of owners.
* `refCounted_balanced`: however `RefCounted`s are copied, moved and assigned (to themselves too),
  each object has been released as often as its handles let go of it, and never after its last one.
* `uniqued_freed_once`: an object that is given to a `Uniqued` once is freed once, when no variable
  holds it any more.
-/

namespace VirtualUSB

open Owners LabelledSystem

variable {V T : Type*} [Fintype V] [DecidableEq T] {vars vars' : Vars V T} {evs : List (Event T)}

/-! ### The calls -/

/-- The number of variables that hold an object. -/
def holders (vars : Vars V T) : T → ℕ :=
  owners fun v => (vars v).join

@[simp] theorem holders_init (t : T) : holders (fun _ : V => none) t = 0 :=
  Finset.sum_eq_zero fun _ _ => rfl

section Calls

variable [DecidableEq V]

theorem holders_update (vars : Vars V T) (x : V) (c : Option (Option T)) (t : T) :
    holders (Function.update vars x c) t + owns (vars x).join t
      = holders vars t + owns c.join t := by
  rw [holders, show (fun v => (Function.update vars x c v).join)
    = Function.update (fun v => (vars v).join) x c.join from
      Function.comp_update Option.join vars x c]
  exact owners_update _ _ _ _

/-- A variable that a call constructs held nothing. -/
theorem holders_construct {x : V} (hx : (vars x).isNone = true) (c : Option T) (t : T) :
    holders (Function.update vars x (some c)) t = holders vars t + owns c t := by
  have hupdate := holders_update vars x (some c) t
  rwa [Option.isNone_iff_eq_none.mp hx] at hupdate

namespace RefCounted

/-- The events of a call are right. -/
def Right (vars : Vars V T) (r : HandleResult V T) : Prop :=
  ∀ vars' evs, r = some (vars', evs) → Conserves (holders vars) (holders vars') evs

theorem construct_right (vars : Vars V T) (x : V) : Right vars (construct vars x) := by
  intro vars' evs h
  rw [construct] at h
  split_ifs at h with hx
  obtain ⟨rfl, rfl⟩ := Prod.mk.inj (Option.some.inj h)
  rw [show holders (Function.update vars x (some none)) = holders vars from
    funext fun t => holders_construct hx none t]
  exact .refl _

theorem giveNoRetain_right (vars : Vars V T) (x : V) (t : T) :
    Right vars (giveNoRetain vars x t) := by
  intro vars' evs h
  rw [giveNoRetain] at h
  split_ifs at h with hx
  obtain ⟨rfl, rfl⟩ := Prod.mk.inj (Option.some.inj h)
  rw [show holders (Function.update vars x (some (some t))) = fun t' => holders vars t'
    + owns (some t) t' from funext fun t' => holders_construct hx (some t) t']
  exact .give _ (some t)

/-- The handle has its own reference, so the one of the caller does not count. -/
theorem giveRetain_right (vars : Vars V T) (x : V) (t : T) : Right vars (giveRetain vars x t) := by
  intro vars' evs h
  rw [giveRetain] at h
  split_ifs at h with hx
  obtain ⟨rfl, rfl⟩ := Prod.mk.inj (Option.some.inj h)
  rw [show holders (Function.update vars x (some (some t))) = fun t' => holders vars t'
    + owns (some t) t' from funext fun t' => holders_construct hx (some t) t']
  exact .borrow _ t

/-- The new object is retained before the old one is released. -/
theorem copyAssign_right (vars : Vars V T) (x y : V) : Right vars (copyAssign vars x y) := by
  intro vars' evs h
  rw [copyAssign] at h
  split at h
  · next held other hx hy =>
    obtain ⟨rfl, rfl⟩ := Prod.mk.inj (Option.some.inj h)
    have hother : ∀ t, owns other t ≤ holders vars t := fun t => by
      have hle := owns_le_owners (fun v => (vars v).join) y t
      rwa [hy] at hle
    refine (Conserves.share hother).trans (.drop fun t => ?_)
    have hupdate := holders_update vars x (some other) t
    rwa [hx] at hupdate
  · cases h

/-- Only the old object loses an owner, and a variable that is assigned to itself is empty. -/
theorem moveAssign_right (vars : Vars V T) (x y : V) : Right vars (moveAssign vars x y) := by
  intro vars' evs h
  rw [moveAssign] at h
  split at h
  · next held other hx hy =>
    obtain ⟨rfl, rfl⟩ := Prod.mk.inj (Option.some.inj h)
    refine .drop fun t => ?_
    have hfirst := holders_update vars x (some other) t
    have hsecond := holders_update (Function.update vars x (some other)) y (some none) t
    have hstill : Function.update vars x (some other) y = some other := by
      rcases eq_or_ne y x with rfl | hne
      · exact Function.update_self ..
      · rw [Function.update_of_ne hne, hy]
    rw [hx] at hfirst
    rw [hstill] at hsecond
    simp only [Option.join_some, owns_none] at hfirst hsecond
    omega
  · cases h

theorem constructBy_right {assign : Vars V T → V → V → HandleResult V T}
    (hassign : ∀ vars x y, Right vars (assign vars x y)) (vars : Vars V T) (x y : V) :
    Right vars (constructBy assign vars x y) := by
  intro vars' evs h
  rw [constructBy] at h
  split_ifs at h with hxy
  split at h
  · cases h
  · next vars₁ evs₁ hconstruct =>
    have hfirst := construct_right vars x vars₁ evs₁ hconstruct
    have hnone : evs₁ = [] := by
      rw [construct] at hconstruct
      split_ifs at hconstruct
      exact (Prod.mk.inj (Option.some.inj hconstruct)).2.symm
    rw [hnone] at hfirst
    exact hfirst.trans (hassign vars₁ x y vars' evs h)

theorem reset_right (vars : Vars V T) (x : V) : Right vars (reset vars x) := by
  intro vars' evs h
  rw [reset] at h
  split at h
  · next held hx =>
    obtain ⟨rfl, rfl⟩ := Prod.mk.inj (Option.some.inj h)
    refine .drop fun t => ?_
    have hupdate := holders_update vars x (some none) t
    rwa [hx] at hupdate
  · cases h

theorem destruct_right (vars : Vars V T) (x : V) : Right vars (destruct vars x) := by
  intro vars' evs h
  rw [destruct] at h
  split at h
  · next held hx =>
    obtain ⟨rfl, rfl⟩ := Prod.mk.inj (Option.some.inj h)
    refine .drop fun t => ?_
    have hupdate := holders_update vars x none t
    rwa [hx] at hupdate
  · cases h

theorem step_right (vars : Vars V T) (op : RefOp V T) : Right vars (step vars op) := by
  cases op with
  | construct x => exact construct_right vars x
  | giveNoRetain x t => exact giveNoRetain_right vars x t
  | giveRetain x t => exact giveRetain_right vars x t
  | copyConstruct x y => exact constructBy_right copyAssign_right vars x y
  | copyAssign x y => exact copyAssign_right vars x y
  | moveConstruct x y => exact constructBy_right moveAssign_right vars x y
  | moveAssign x y => exact moveAssign_right vars x y
  | reset x => exact reset_right vars x
  | destruct x => exact destruct_right vars x

end RefCounted

open RefCounted in
theorem Uniqued.step_right (vars : Vars V T) (op : UniqOp V T) : Right vars (step vars op) := by
  cases op with
  | construct x => exact construct_right vars x
  | give x t => exact giveNoRetain_right vars x t
  | moveConstruct x y => exact constructBy_right moveAssign_right vars x y
  | moveAssign x y => exact moveAssign_right vars x y
  | reset x => exact reset_right vars x
  | destruct x => exact destruct_right vars x

/-! ### Programs -/

/-- How often a program hands over its own reference, with `RefCounted(NoRetain, t)`. -/
def handed (t : T) (ops : List (RefOp V T)) : ℕ :=
  ops.countP fun
    | .giveNoRetain _ t' => t' = t
    | _ => false

/-- The calls of `RetainFn`. -/
def retains (t : T) (evs : List (Event T)) : ℕ :=
  evs.count (.borrowed t) + evs.count (.shared t)

/-- The calls of `ReleaseFn`. -/
def releases (t : T) (evs : List (Event T)) : ℕ :=
  evs.count (.dropped t)

namespace RefCounted

omit [Fintype V] [DecidableEq T] in
theorem given_not_mem_copyAssign {x y : V} (h : copyAssign vars x y = some (vars', evs)) (t : T) :
    .given t ∉ evs := by
  rw [copyAssign] at h
  split at h
  · cases h
    simp
  · cases h

omit [Fintype V] [DecidableEq T] in
theorem given_not_mem_moveAssign {x y : V} (h : moveAssign vars x y = some (vars', evs)) (t : T) :
    .given t ∉ evs := by
  rw [moveAssign] at h
  split at h
  · cases h
    simp
  · cases h

omit [Fintype V] in
/-- Only `RefCounted(NoRetain, t)` takes over a reference without a call. -/
theorem count_given_step {op : RefOp V T} (h : step vars op = some (vars', evs)) (t : T) :
    evs.count (.given t) = handed t [op] := by
  cases op with
  | construct x =>
    rw [step, construct] at h
    split_ifs at h
    cases h
    rfl
  | giveNoRetain x t' =>
    rw [step, giveNoRetain] at h
    split_ifs at h
    cases h
    simp [handed, List.count_singleton]
  | giveRetain x t' =>
    rw [step, giveRetain] at h
    split_ifs at h
    cases h
    simp [handed]
  | copyConstruct x y =>
    rw [step, constructBy] at h
    split_ifs at h
    split at h
    · cases h
    · exact List.count_eq_zero.mpr (given_not_mem_copyAssign h t)
  | copyAssign x y => exact List.count_eq_zero.mpr (given_not_mem_copyAssign h t)
  | moveConstruct x y =>
    rw [step, constructBy] at h
    split_ifs at h
    split at h
    · cases h
    · exact List.count_eq_zero.mpr (given_not_mem_moveAssign h t)
  | moveAssign x y => exact List.count_eq_zero.mpr (given_not_mem_moveAssign h t)
  | reset x =>
    rw [step, reset] at h
    split at h
    · cases h
      exact List.count_eq_zero.mpr (by simp)
    · cases h
  | destruct x =>
    rw [step, destruct] at h
    split at h
    · cases h
      exact List.count_eq_zero.mpr (by simp)
    · cases h

omit [Fintype V] in
theorem count_given_of_run {ops : List (RefOp V T)} (h : (refCounted V T).Run ops vars evs)
    (t : T) : evs.count (.given t) = handed t ops := by
  induction h with
  | nil => rfl
  | snoc _ _ hs ih =>
    rw [List.count_append, ih, count_given_step hs, handed, handed, handed, List.countP_append]

end RefCounted

/-- **Shared handles are balanced.**  In every program, the references to an object that were handed
over and the calls of `RetainFn` for it are as many as the calls of `ReleaseFn` for it and the
handles that hold it; and an object is retained for a copy or released only while there is a
reference to it. -/
theorem refCounted_balanced {ops : List (RefOp V T)} (h : (refCounted V T).Run ops vars evs) :
    (∀ t, handed t ops + retains t evs = releases t evs + holders vars t) ∧
      ∀ pre e post, evs = pre ++ e :: post → ∀ t, e.Touches t → lost t pre < gained t pre := by
  have hrun : Conserves (holders (refCounted V T).init) (holders vars) evs :=
    Conserves.run (fun s op s' os hs => RefCounted.step_right s op s' os hs) h
  obtain ⟨hbalance, htouched⟩ := hrun.counted holders_init
  refine ⟨fun t => ?_, htouched⟩
  rw [← RefCounted.count_given_of_run h t, retains, ← Nat.add_assoc]
  exact hbalance t

/-- A handle takes over a reference and is copied, and a third handle retains the object too; some
are assigned to themselves, and all are destructed. -/
def sharingOps : List (RefOp (Fin 3) ℕ) :=
  [.giveNoRetain 0 7, .giveRetain 2 7, .copyConstruct 1 0, .copyAssign 1 1, .moveAssign 0 0,
    .destruct 0, .destruct 1, .destruct 2]

theorem sharingOps_isSome : ((refCounted (Fin 3) ℕ).exec sharingOps).isSome = true := by decide

/-- It is released as often as it was handed over and retained. -/
theorem refCounted_balanced_sharingOps :
    handed 7 sharingOps = 1 ∧
      1 + retains 7 (((refCounted (Fin 3) ℕ).exec sharingOps).get sharingOps_isSome).2
        = releases 7 (((refCounted (Fin 3) ℕ).exec sharingOps).get sharingOps_isSome).2 := by
  refine ⟨by decide, ?_⟩
  have hbalance := (refCounted_balanced (run_exec_get sharingOps_isSome)).1 7
  rwa [show holders (((refCounted (Fin 3) ℕ).exec sharingOps).get sharingOps_isSome).1 7 = 0 by
    decide] at hbalance

/-! ### Unique handles -/

namespace Uniqued

open RefCounted

omit [Fintype V] [DecidableEq T] in
/-- Nothing retains an object. -/
theorem not_retained {op : UniqOp V T} (h : step vars op = some (vars', evs)) (t : T) :
    .borrowed t ∉ evs ∧ .shared t ∉ evs := by
  have hassign : ∀ vars x y vars' evs, moveAssign (V := V) vars x y = some (vars', evs) →
      .borrowed t ∉ evs ∧ .shared t ∉ evs := fun vars x y vars' evs h => by
    rw [moveAssign] at h
    split at h
    · cases h
      simp
    · cases h
  cases op with
  | construct x =>
    rw [step, construct] at h
    split_ifs at h
    cases h
    simp
  | give x t =>
    rw [step, giveNoRetain] at h
    split_ifs at h
    cases h
    simp
  | moveConstruct x y =>
    rw [step, constructBy] at h
    split_ifs at h
    split at h
    · cases h
    · exact hassign _ _ _ _ _ h
  | moveAssign x y => exact hassign _ _ _ _ _ h
  | reset x =>
    rw [step, reset] at h
    split at h
    · cases h
      simp
    · cases h
  | destruct x =>
    rw [step, destruct] at h
    split at h
    · cases h
      simp
    · cases h

omit [Fintype V] in
theorem gained_eq {ops : List (UniqOp V T)} (h : (uniqued V T).Run ops vars evs) (t : T) :
    gained t evs = evs.count (.given t) := by
  obtain ⟨hborrowed, hshared⟩ := h.invariant
    (P := fun _ os => .borrowed t ∉ os ∧ .shared t ∉ os) ⟨by simp, by simp⟩
    fun _ _ _ _ _ hP _ hs =>
      ⟨fun hmem => (List.mem_append.mp hmem).elim hP.1 (not_retained hs t).1,
        fun hmem => (List.mem_append.mp hmem).elim hP.2 (not_retained hs t).2⟩
  rw [gained, List.count_eq_zero.mpr hborrowed, List.count_eq_zero.mpr hshared]
  rfl

end Uniqued

/-- **Unique handles free each object once.**  If no object is given twice, then no object is freed
twice, at most one variable holds it, and what has been freed are the objects that were given and
that no variable holds any more. -/
theorem uniqued_freed_once {ops : List (UniqOp V T)} (h : (uniqued V T).Run ops vars evs)
    (honce : ∀ t, evs.count (.given t) ≤ 1) (t : T) :
    lost t evs + holders vars t ≤ 1 ∧
      (.dropped t ∈ evs ↔ .given t ∈ evs ∧ ∀ v, vars v ≠ some (some t)) := by
  have hrun : Conserves (holders (uniqued V T).init) (holders vars) evs :=
    Conserves.run (fun s op s' os hs => Uniqued.step_right s op s' os hs) h
  have hbalance := (hrun.counted holders_init).1 t
  have hgiven := honce t
  rw [Uniqued.gained_eq h t] at hbalance
  refine ⟨by omega, ?_⟩
  have hholds : holders vars t = 0 ↔ ∀ v, vars v ≠ some (some t) := by
    rw [holders, owners_eq_zero_iff]
    simp only [ne_eq, Option.join_eq_some_iff]
  rw [← hholds, ← List.count_pos_iff, ← List.count_pos_iff]
  show 0 < lost t evs ↔ _
  omega

/-- A unique handle is moved and destructed. -/
def movingOps : List (UniqOp Bool ℕ) :=
  [.give false 7, .moveConstruct true false, .destruct false, .destruct true]

theorem movingOps_isSome : ((uniqued Bool ℕ).exec movingOps).isSome = true := by decide

theorem uniqued_freed_once_movingOps :
    .dropped 7 ∈ (((uniqued Bool ℕ).exec movingOps).get movingOps_isSome).2 :=
  have hnodup : (((uniqued Bool ℕ).exec movingOps).get movingOps_isSome).2.Nodup := by decide
  (uniqued_freed_once (run_exec_get movingOps_isSome)
    (fun t => List.nodup_iff_count_le_one.mp hnodup (.given t)) 7).2.mpr ⟨by decide, by decide⟩

end Calls

end VirtualUSB

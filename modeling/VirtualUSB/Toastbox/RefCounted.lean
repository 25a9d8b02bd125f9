import VirtualUSB.Base.Owners

/-!
# Shared and unique handles (`RefCounted.h`, `Uniqued.h`)

A `RefCounted` retains the object that it holds and releases it when it lets go of it; a `Uniqued`
frees it.  `Vars V T` are the variables of a program: `none` is a variable that is not constructed
yet or was destructed, `some none` one that is empty, and `some (some t)` one that holds `t`.

A call gives the variables afterwards and what it does to the objects; the language does not allow
it (`none`) on a variable that does not exist, and constructors on one that does.  `shared` and
`borrowed` are calls of `RetainFn`, for a copy and for an object of which the caller keeps its own
reference; `dropped` is a call of `ReleaseFn` (`FreeFn`).  No function is called for `given`: the
handle takes over the reference of the caller.
-/

namespace VirtualUSB

open Owners

variable {V T : Type*} [DecidableEq V]

abbrev Vars (V T : Type*) := V → Option (Option T)

/-- The variables after a call and the events of the call. -/
abbrev HandleResult (V T : Type*) := Option (Vars V T × List (Event T))

namespace RefCounted

/-- `RefCounted()` -/
def construct (vars : Vars V T) (x : V) : HandleResult V T :=
  if (vars x).isNone then some (Function.update vars x (some none), []) else none

/-- `RefCounted(NoRetain, t)` -/
def giveNoRetain (vars : Vars V T) (x : V) (t : T) : HandleResult V T :=
  if (vars x).isNone then some (Function.update vars x (some (some t)), [.given t]) else none

/-- `RefCounted(Retain, t)` -/
def giveRetain (vars : Vars V T) (x : V) (t : T) : HandleResult V T :=
  if (vars x).isNone then some (Function.update vars x (some (some t)), [.borrowed t]) else none

/-- `x = y` retains the object of `y` first, which can be that of `x` too. -/
def copyAssign (vars : Vars V T) (x y : V) : HandleResult V T :=
  match vars x, vars y with
  | some held, some other =>
    some (Function.update vars x (some other),
      other.toList.map .shared ++ held.toList.map .dropped)
  | _, _ => none

/-- `x = std::move(y)` -/
def moveAssign (vars : Vars V T) (x y : V) : HandleResult V T :=
  match vars x, vars y with
  | some held, some other =>
    some (Function.update (Function.update vars x (some other)) y (some none),
      held.toList.map .dropped)
  | _, _ => none

/-- The copy constructor and the move constructor assign to an empty variable. -/
def constructBy (assign : Vars V T → V → V → HandleResult V T) (vars : Vars V T) (x y : V) :
    HandleResult V T :=
  if x = y then none
  else
    match construct vars x with
    | none => none
    | some (vars', _) => assign vars' x y

/-- `reset()` -/
def reset (vars : Vars V T) (x : V) : HandleResult V T :=
  match vars x with
  | some held => some (Function.update vars x (some none), held.toList.map .dropped)
  | none => none

/-- `~RefCounted()` -/
def destruct (vars : Vars V T) (x : V) : HandleResult V T :=
  match vars x with
  | some held => some (Function.update vars x none, held.toList.map .dropped)
  | none => none

end RefCounted

/-! ### Programs that use handles -/

/-- A call on a `RefCounted`. -/
inductive RefOp (V T : Type*)
  | construct (x : V)
  | giveNoRetain (x : V) (t : T)
  | giveRetain (x : V) (t : T)
  | copyConstruct (x y : V)
  | copyAssign (x y : V)
  | moveConstruct (x y : V)
  | moveAssign (x y : V)
  | reset (x : V)
  | destruct (x : V)

open RefCounted in
def RefCounted.step (vars : Vars V T) : RefOp V T → HandleResult V T
  | .construct x => construct vars x
  | .giveNoRetain x t => giveNoRetain vars x t
  | .giveRetain x t => giveRetain vars x t
  | .copyConstruct x y => constructBy copyAssign vars x y
  | .copyAssign x y => copyAssign vars x y
  | .moveConstruct x y => constructBy moveAssign vars x y
  | .moveAssign x y => moveAssign vars x y
  | .reset x => reset vars x
  | .destruct x => destruct vars x

/-- A program with variables of type `RefCounted`. -/
def refCounted (V T : Type*) [DecidableEq V] :
    LabelledSystem (Vars V T) (RefOp V T) (Event T) where
  init := fun _ => none
  step := RefCounted.step

/-- A call on a `Uniqued`, which cannot be copied. -/
inductive UniqOp (V T : Type*)
  | construct (x : V)
  | give (x : V) (t : T)
  | moveConstruct (x y : V)
  | moveAssign (x y : V)
  | reset (x : V)
  | destruct (x : V)

open RefCounted in
/-- The functions of `Uniqued` are those of `RefCounted`; nothing is ever retained. -/
def Uniqued.step (vars : Vars V T) : UniqOp V T → HandleResult V T
  | .construct x => construct vars x
  | .give x t => giveNoRetain vars x t
  | .moveConstruct x y => constructBy moveAssign vars x y
  | .moveAssign x y => moveAssign vars x y
  | .reset x => reset vars x
  | .destruct x => destruct vars x

/-- A program with variables of type `Uniqued`. -/
def uniqued (V T : Type*) [DecidableEq V] :
    LabelledSystem (Vars V T) (UniqOp V T) (Event T) where
  init := fun _ => none
  step := Uniqued.step

end VirtualUSB

import VirtualUSB.Threads.System

/-!
# Two objects (`VirtualUSBDevice.cpp`)

`_s` is a variable of the file and not a member of the class, so all objects share it; what an
object has of its own is its `Info`.

`instances infos` is the system of two objects.  A step belongs to the object whose method the
client thread has called, or whose `start()` has created the thread.  The constructor copies the
`Info` and leaves `_s` alone, so it is no step.  `_s.configDesc` points to a descriptor of the
object that has handled the SetConfiguration, whichever object answers a GetStatus afterwards.
-/

namespace VirtualUSB

/-- The two objects. -/
inductive Obj
  | a
  | b
  deriving DecidableEq, Repr

/-- The shared variable, and what the threads do for which object. -/
structure Instances where
  /-- `_s` -/
  sys : Sys := {}
  /-- The object whose method a client thread called last. -/
  object : ℕ → Obj := fun _ => .a
  /-- The object whose `start()` was run. -/
  starter : Option Obj := none

namespace Instances

/-- A step belongs to an object. -/
def belongs (m : Instances) (o : Obj) : Action → Bool
  | .call _ _ => true
  | .client t | .start t _ | .timeout t | .wake (.client t) => m.object t == o
  | .reader | .recv _ | .writer | .send _ | .wake .reader | .wake .writer => m.starter == some o

/-- The state after a step of an object that leaves `_s` in the state `s`. -/
def after (m : Instances) (o : Obj) (s : Sys) : Action → Instances
  | .call t _ => { m with sys := s, object := Function.update m.object t o }
  | .start _ _ => { m with sys := s, starter := some o }
  | _ => { m with sys := s }

/-- The effect of a step of one of the objects: that of the program, with the `Info` of the
object. -/
def step (infos : Obj → Info) (m : Instances) (i : Obj × Action) :
    Option (Instances × List (Obj × SysEvent)) :=
  if m.belongs i.1 i.2 then
    match m.sys.step (infos i.1) i.2 with
    | some (s, evs) => some (m.after i.1 s i.2, evs.map fun ev => (i.1, ev))
    | none => none
  else none

end Instances

/-- The program with two objects that have the given descriptors. -/
def instances (infos : Obj → Info) : LabelledSystem Instances (Obj × Action) (Obj × SysEvent) where
  init := {}
  step := Instances.step infos

/-- The steps of an object. -/
def stepsOf (o : Obj) (is : List (Obj × Action)) : List (Obj × Action) :=
  is.filter fun i => i.1 == o

/-- What happened in the steps of an object: what its calls returned, what its threads received and
sent, what its commands did. -/
def eventsOf (o : Obj) (evs : List (Obj × SysEvent)) : List (Obj × SysEvent) :=
  evs.filter fun ev => ev.1 == o

/-- Leaving out the steps of the object `a` leaves what happens to the object `b` as it is. -/
def Unaffected (infos : Obj → Info) (is : List (Obj × Action)) (evs : List (Obj × SysEvent)) :
    Prop :=
  ∃ m, (instances infos).Run (stepsOf .b is) m (eventsOf .b evs)

end VirtualUSB

import Mathlib.Logic.Function.Basic
import VirtualUSB.Base.LabelledSystem

/-!
# Cooperative tasks (`Task.h`, `Task.cpp`)

A task is a function that `TaskYield` and `TaskWait` cut into pieces: it returns there, and `_jmp`
keeps the label at which the next call goes on.  `Task::Run` calls the tasks one after the other,
round after round, until none of them has done any work.

`TaskFn` is the function of a task, which the user of the class writes.  It works on `σ`, what the
tasks share, and calls `start`, `pause` and `resume` of any task.  It need not return, so a step of
`scheduler fns env` goes up to the next piece or through one.  `_CurrentTask` is the task whose
piece is run.

`TaskSleepMs` is left out, since what it calls is commented out in the source.
-/

namespace VirtualUSB

variable {σ L : Type*} {n : ℕ}

/-- `Task::State` -/
inductive TaskState
  | run
  | wait
  | stop
  deriving DecidableEq

/-- `Task`, as the constructor leaves it; `L` are the labels of its function. -/
structure Task (L : Type*) where
  state : TaskState := .run
  didWork : Bool := false
  jmp : Option L := none

namespace Task

def start (t : Task L) : Task L := { t with state := .run, jmp := none }

def pause (t : Task L) : Task L := { t with state := .stop }

def resume (t : Task L) : Task L := { t with state := .run }

def setWaiting (t : Task L) : Task L := { t with state := .wait }

def setRunning (t : Task L) : Task L := { t with state := .run, didWork := true }

/-- `_TaskYield()` -/
def yieldAt (t : Task L) (l : L) : Task L := { t with jmp := some l }

/-- What `run()` does before it calls the function. -/
def enter (t : Task L) : Task L := { t with didWork := false }

/-- What `run()` does when the function has returned. -/
def leave (t : Task L) : Task L :=
  match t.state with
  | .run => { t with state := .stop, jmp := none }
  | _ => t

end Task

/-! ### The functions of the tasks -/

/-- What the function of a task can call. -/
inductive TaskCall (n : ℕ)
  | start (i : Fin n)
  | pause (i : Fin n)
  | resume (i : Fin n)

def TaskCall.apply (tasks : Fin n → Task L) : TaskCall n → Fin n → Task L
  | .start i => Function.update tasks i (tasks i).start
  | .pause i => Function.update tasks i (tasks i).pause
  | .resume i => Function.update tasks i (tasks i).resume

/-- The function of a task. -/
structure TaskFn (σ L : Type*) (n : ℕ) where
  /-- The condition of the `TaskWait` at a label, with what evaluating it changes; `none` is a
  `TaskYield`. -/
  cond : L → Option (σ → Bool × σ)
  /-- The piece behind a label (`none`: behind `TaskBegin`): what it changes, what it calls and the
  label of the macro it comes to (`none`: the end of the function). -/
  code : Option L → σ → σ × List (TaskCall n) × Option L

/-! ### `Task::Run` -/

/-- Where `Task::Run` is. -/
inductive RunPc (L : Type*) (n : ℕ)
  /-- Before the call of the `i`th task, or behind the last one; `didWork` is the variable. -/
  | turn (i : ℕ) (didWork : Bool)
  /-- Before a piece of the function of a task. -/
  | inTask (i : Fin n) (point : Option L) (didWork : Bool)
  /-- Behind the inner loop, where the program would wait for an interrupt. -/
  | idle

/-- The tasks, what they share and where `Task::Run` is. -/
structure Sched (σ L : Type*) (n : ℕ) where
  env : σ
  tasks : Fin n → Task L := fun _ => {}
  pc : RunPc L n := .turn 0 false

namespace Sched

def setTask (s : Sched σ L n) (i : Fin n) (t : Task L) : Sched σ L n :=
  { s with tasks := Function.update s.tasks i t }

/-- The function has returned: the rest of `run()`, and `didWork |= task.run()`. -/
def leave (s : Sched σ L n) (i : Fin n) (didWork : Bool) : Sched σ L n :=
  { s.setTask i (s.tasks i).leave with pc := .turn (i + 1) (didWork || (s.tasks i).didWork) }

/-- `_setRunning()`, and on with the piece. -/
def goOn (s : Sched σ L n) (i : Fin n) (point : Option L) (didWork : Bool) : Sched σ L n :=
  { s.setTask i (s.tasks i).setRunning with pc := .inTask i point didWork }

/-- The loop of `TaskWait`: to the piece behind it if the condition holds, else out of the
function. -/
def await (s : Sched σ L n) (i : Fin n) (l : L) (c : σ → Bool × σ) (didWork : Bool) :
    Sched σ L n :=
  let s' := { s with env := (c s.env).2 }
  if (c s.env).1 then s'.goOn i (some l) didWork
  else (s'.setTask i ((s'.tasks i).yieldAt l)).leave i didWork

variable (fns : Fin n → TaskFn σ L n)

/-- `run()` up to the first piece that it comes to. -/
def call (s : Sched σ L n) (i : Fin n) (didWork : Bool) : Sched σ L n :=
  let s' := s.setTask i (s.tasks i).enter
  match (s.tasks i).state with
  | .stop => s'.leave i didWork
  | _ =>
    match (s.tasks i).jmp with
    | none => s'.goOn i none didWork
    | some l =>
      match (fns i).cond l with
      | none => s'.goOn i (some l) didWork
      | some c => s'.await i l c didWork

/-- What the piece changes itself, before the macro. -/
def body (s : Sched σ L n) (i : Fin n) (point : Option L) : Sched σ L n :=
  { s with
    env := ((fns i).code point s.env).1
    tasks := ((fns i).code point s.env).2.1.foldl TaskCall.apply s.tasks }

/-- A piece of the function, and the macro behind it. -/
def piece (s : Sched σ L n) (i : Fin n) (point : Option L) (didWork : Bool) : Sched σ L n :=
  let s' := s.body fns i point
  match ((fns i).code point s.env).2.2 with
  | none => s'.leave i didWork
  | some l =>
    let s'' := s'.setTask i (s'.tasks i).setWaiting
    match (fns i).cond l with
    | none => (s''.setTask i ((s''.tasks i).yieldAt l)).leave i didWork
    | some c => s''.await i l c didWork

/-- A step of `Task::Run`, and the piece that it has run. -/
def step (s : Sched σ L n) : Sched σ L n × List (Fin n × Option L) :=
  match s.pc with
  | .turn i didWork =>
    if h : i < n then (s.call fns ⟨i, h⟩ didWork, [])
    else ({ s with pc := if didWork then .turn 0 false else .idle }, [])
  | .inTask i point didWork => (s.piece fns i point didWork, [(i, point)])
  | .idle => ({ s with pc := .turn 0 false }, [])

end Sched

/-- `Task::Run` on tasks with the functions `fns`. -/
def scheduler (fns : Fin n → TaskFn σ L n) (env : σ) :
    LabelledSystem (Sched σ L n) Unit (Fin n × Option L) where
  init := { env }
  step s _ := some (s.step fns)

/-! ### What the tasks are for -/

/-- Coroutines: each has a place where it goes on, and goes on only while it is active. -/
structure Coroutines (σ L : Type*) (n : ℕ) where
  env : σ
  place : Fin n → Option L := fun _ => none
  active : Fin n → Bool := fun _ => true
  pc : RunPc L n := .turn 0 false

namespace Coroutines

/-- A coroutine begins anew, or it is suspended, or it goes on from its place. -/
def apply (s : Coroutines σ L n) : TaskCall n → Coroutines σ L n
  | .start i =>
    { s with place := Function.update s.place i none, active := Function.update s.active i true }
  | .pause i => { s with active := Function.update s.active i false }
  | .resume i => { s with active := Function.update s.active i true }

/-- A coroutine goes on behind a wait if the condition holds, and else gives up its turn. -/
def await (s : Coroutines σ L n) (i : Fin n) (l : L) (c : σ → Bool × σ) (didWork worked : Bool) :
    Coroutines σ L n :=
  if (c s.env).1 then { s with env := (c s.env).2, pc := .inTask i (some l) didWork }
  else
    { s with
      env := (c s.env).2
      place := Function.update s.place i (some l)
      pc := .turn (i + 1) (didWork || worked) }

variable (fns : Fin n → TaskFn σ L n)

/-- The turn of a coroutine. -/
def call (s : Coroutines σ L n) (i : Fin n) (didWork : Bool) : Coroutines σ L n :=
  if s.active i then
    match s.place i with
    | none => { s with pc := .inTask i none didWork }
    | some l =>
      match (fns i).cond l with
      | none => { s with pc := .inTask i (some l) didWork }
      | some c => s.await i l c didWork false
  else { s with pc := .turn (i + 1) didWork }

/-- A piece of a coroutine; one that has been suspended does not wait, and one that ends is not
active any more and would begin anew. -/
def piece (s : Coroutines σ L n) (i : Fin n) (point : Option L) (didWork : Bool) :
    Coroutines σ L n :=
  let s' := ((fns i).code point s.env).2.1.foldl apply
    { s with env := ((fns i).code point s.env).1 }
  match ((fns i).code point s.env).2.2 with
  | none =>
    { s' with
      place := Function.update s'.place i none
      active := Function.update s'.active i false
      pc := .turn (i + 1) true }
  | some l =>
    match s'.active i, (fns i).cond l with
    | true, some c => s'.await i l c didWork true
    | _, _ => { s' with place := Function.update s'.place i (some l), pc := .turn (i + 1) true }

def step (s : Coroutines σ L n) : Coroutines σ L n × List (Fin n × Option L) :=
  match s.pc with
  | .turn i didWork =>
    if h : i < n then (s.call fns ⟨i, h⟩ didWork, [])
    else ({ s with pc := if didWork then .turn 0 false else .idle }, [])
  | .inTask i point didWork => (s.piece fns i point didWork, [(i, point)])
  | .idle => ({ s with pc := .turn 0 false }, [])

end Coroutines

/-- Coroutines that get their turns one after the other. -/
def coroutines (fns : Fin n → TaskFn σ L n) (env : σ) :
    LabelledSystem (Coroutines σ L n) Unit (Fin n × Option L) where
  init := { env }
  step s _ := some (s.step fns)

end VirtualUSB

import VirtualUSB.Threads.Client
import VirtualUSB.Threads.Io

/-!
# The whole program as a transition system

`threads info` is the system of all threads.  Its inputs say which thread goes on; where the
outside decides (what a system call returns, when a timeout expires, a spurious wake-up, which call
a client makes) the input carries the decision.
-/

namespace VirtualUSB

/-- The steps of the program. -/
inductive Action
  /-- A client thread makes a call. -/
  | call (t : ℕ) (call : Call)
  /-- A client thread goes on with its call. -/
  | client (t : ℕ)
  /-- A client thread that called `start()` runs it. -/
  | start (t : ℕ) (o : StartOutcome)
  /-- `wait_for` of a client thread in `read()` returns because of the timeout, whether or not it
  was notified before it has the lock again. -/
  | timeout (t : ℕ)
  /-- A thread wakes up without having been notified. -/
  | wake (th : Thread)
  | reader
  | recv (r : IoResult (List UInt8))
  | writer
  | send (r : IoResult ℕ)

/-- The effect of a step. -/
def Sys.step (info : Info) (s : Sys) : Action → Option (Sys × List SysEvent)
  | .call t call => if s.clients t = .idle then some (s.setClient t (.entering call), []) else none
  | .client t => if s.asleep (.client t) then none else s.stepClient info t
  | .start t o =>
    if s.clients t = .entering .start ∧ o.distinct = true then s.startCall info t o else none
  | .timeout t =>
    if s.clients t = .reading .finite then
      some ((s.wake (.client t)).return_ t (.read .finite) .nullopt)
    else none
  | .wake th => if s.asleep th then some (s.wake th, []) else none
  | .reader => if s.asleep .reader then none else s.stepReader
  | .recv r => s.stepRecv r
  | .writer => if s.asleep .writer then none else s.stepWriter
  | .send r => s.stepSend r

/-- The program with the given descriptors. -/
def threads (info : Info) : LabelledSystem Sys Action SysEvent where
  init := {}
  step := Sys.step info

/-! ### Histories -/

/-- What happened in the device. -/
def devEvents (evs : List SysEvent) : List Event :=
  evs.filterMap fun
    | .dev ev => some ev
    | _ => none

/-- The bytes that `recv` returned to the reader thread. -/
def receivedBytes (evs : List SysEvent) : List UInt8 :=
  evs.flatMap fun
    | .received bs => bs
    | _ => []

/-- The bytes that the writer thread put on the socket. -/
def sentBytes (evs : List SysEvent) : List UInt8 :=
  evs.flatMap fun
    | .sent bs => bs
    | _ => []

/-- The `Xfer`s that calls of `read()` returned. -/
def returnedXfers (evs : List SysEvent) : List Xfer :=
  evs.filterMap fun
    | .returned _ _ (.xfer x) => some x
    | _ => none

@[simp] theorem devEvents_append (evs evs' : List SysEvent) :
    devEvents (evs ++ evs') = devEvents evs ++ devEvents evs' :=
  List.filterMap_append

@[simp] theorem devEvents_map_dev (evs : List Event) : devEvents (evs.map .dev) = evs := by
  simp [devEvents, List.filterMap_map]

@[simp] theorem receivedBytes_append (evs evs' : List SysEvent) :
    receivedBytes (evs ++ evs') = receivedBytes evs ++ receivedBytes evs' :=
  List.flatMap_append

@[simp] theorem sentBytes_append (evs evs' : List SysEvent) :
    sentBytes (evs ++ evs') = sentBytes evs ++ sentBytes evs' :=
  List.flatMap_append

@[simp] theorem returnedXfers_append (evs evs' : List SysEvent) :
    returnedXfers (evs ++ evs') = returnedXfers evs ++ returnedXfers evs' :=
  List.filterMap_append

/-! ### Properties of states -/

/-- The thread has left its loop because of an exception. -/
def ReaderPc.failed : ReaderPc → Bool
  | .caught _ | .resetWait | .exiting | .exited => true
  | _ => false

/-- The thread has left its loop because of an exception. -/
def WriterPc.failed : WriterPc → Bool
  | .caught _ | .resetWait | .exiting | .exited => true
  | _ => false

/-- How far the reader thread or the writer thread is. -/
inductive Stage
  /-- It was not created. -/
  | off
  /-- It works, or it is on its way out. -/
  | on
  /-- It is in the wait loop of `_reset`. -/
  | waiting
  /-- It has cleared its bit. -/
  | gone
  deriving DecidableEq, Repr

/-- The thread was created and has not cleared its bit. -/
def Stage.active : Stage → Bool
  | .on | .waiting => true
  | .off | .gone => false

def ReaderPc.stage : ReaderPc → Stage
  | .notLaunched => .off
  | .resetWait => .waiting
  | .exited => .gone
  | _ => .on

/-- The copy of the socket that the thread works with. -/
def ReaderPc.fd : ReaderPc → Option ℤ
  | .recvHeader socket _ | .recvPayload socket _ _ _ | .push socket _ => some socket
  | _ => none

/-- The socket on which the thread is in a call of `recv`. -/
def ReaderPc.receiving : ReaderPc → Option ℤ
  | .recvHeader socket _ | .recvPayload socket _ _ _ => some socket
  | _ => none

def WriterPc.stage : WriterPc → Stage
  | .notLaunched => .off
  | .resetWait => .waiting
  | .exited => .gone
  | _ => .on

/-- The copy of the socket that the thread works with. -/
def WriterPc.fd : WriterPc → Option ℤ
  | .loop socket | .sendHeader socket _ _ | .sendPayload socket _ => some socket
  | _ => none

/-- The socket on which the thread is in a call of `send`. -/
def WriterPc.sending : WriterPc → Option ℤ
  | .sendHeader socket _ _ | .sendPayload socket _ => some socket
  | _ => none

namespace Sys

/-- The thread is in the wait loop of `_reset`. -/
def InReset (s : Sys) : Thread → Prop
  | .reader => s.reader.stage = .waiting
  | .writer => s.writer.stage = .waiting
  | .client t => ∃ call, s.clients t = .resetting call

/-- Both thread bits are clear and both descriptors are -1. -/
def Stopped (s : Sys) : Prop :=
  s.flags.readThreadRunning = false ∧ s.flags.writeThreadRunning = false ∧ s.socket = -1 ∧
    s.usbipSocket = -1

end Sys

end VirtualUSB

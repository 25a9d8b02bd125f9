import VirtualUSB.Device.System

/-!
# The threads and what they share

`Sys` is the whole struct `_s` together with where every thread is: the reader thread, the writer
thread and any number of client threads.  All shared data is accessed with the lock held, so a
critical section is one step; a thread between two steps does not hold the lock.  The condition
variable is the set of the threads that are asleep on it: `notify_all` wakes all of them.

`shut` and `closed` are history variables that no code reads: the descriptors on which `shutdown`
and `close` were called.

`Sys.resetEnter` and `Sys.resetLoop` are the two halves of `_reset`, up to the wait and after it.
-/

namespace VirtualUSB

/-! ### Threads -/

/-- The threads: the reader thread, the writer thread, and the client threads. -/
inductive Thread
  | reader
  | writer
  | client (t : ℕ)
  deriving DecidableEq, Repr

/-- Where the reader thread is. -/
inductive ReaderPc
  | notLaunched
  /-- About to copy the socket. -/
  | launched
  /-- In `_Read` of a header: what was received of it. -/
  | recvHeader (socket : ℤ) (buf : List UInt8)
  /-- In `_Read` of the payload of a command: what was received of it. -/
  | recvPayload (socket : ℤ) (header : Header) (payloadLen : ℕ) (buf : List UInt8)
  /-- About to append a command to `cmds`. -/
  | push (socket : ℤ) (cmd : Cmd)
  /-- In the handler of an exception, about to call `_reset`. -/
  | caught (e : Err)
  /-- In the wait loop of `_reset`. -/
  | resetWait
  /-- About to clear its bit. -/
  | exiting
  | exited
  deriving DecidableEq

/-- Where the writer thread is. -/
inductive WriterPc
  | notLaunched
  /-- About to copy the socket. -/
  | launched
  /-- In the loop that waits for a reply. -/
  | loop (socket : ℤ)
  /-- In `_Write` of a header: what was not sent of it, and the payload. -/
  | sendHeader (socket : ℤ) (rest payload : List UInt8)
  /-- In `_Write` of a payload: what was not sent of it. -/
  | sendPayload (socket : ℤ) (rest : List UInt8)
  /-- In the handler of an exception, about to call `_reset`. -/
  | caught (e : Err)
  /-- In the wait loop of `_reset`. -/
  | resetWait
  /-- About to clear its bit. -/
  | exiting
  | exited
  deriving DecidableEq

/-- The timeout of `read()`: zero, a duration, or `max()`. -/
inductive Timeout
  | zero
  | finite
  | max
  deriving DecidableEq, Repr

/-- The calls a client can make. -/
inductive Call
  | start
  | stop
  | destroy
  | read (timeout : Timeout)
  | write (ep : UInt8) (data : List UInt8)
  | err
  deriving DecidableEq, Repr

/-- What a call returns or throws. -/
inductive CallResult
  /-- The call returned; it has no value. -/
  | done
  /-- `read()` returned an `Xfer`. -/
  | xfer (x : Xfer)
  /-- `read()` returned `nullopt`. -/
  | nullopt
  /-- `err()` returned. -/
  | error (e : Option Err)
  | threw (e : Err)
  deriving DecidableEq

/-- Where a client thread is. -/
inductive ClientPc
  | idle
  /-- About to take the lock. -/
  | entering (call : Call)
  /-- In the wait of `read()`. -/
  | reading (timeout : Timeout)
  /-- In the wait loop of the `_reset` that the call made. -/
  | resetting (call : Call)
  deriving DecidableEq, Repr

/-! ### The state -/

/-- The bits of `_s.state`. -/
structure Flags where
  started : Bool := false
  readThreadRunning : Bool := false
  writeThreadRunning : Bool := false
  reset : Bool := false
  deriving DecidableEq, Repr

/-- `_s`, the threads, and the history of the descriptors. -/
structure Sys where
  dev : Dev := {}
  flags : Flags := {}
  socket : ℤ := -1
  usbipSocket : ℤ := -1
  reader : ReaderPc := .notLaunched
  writer : WriterPc := .notLaunched
  clients : ℕ → ClientPc := fun _ => .idle
  /-- The threads asleep in `_s.signal.wait()`. -/
  asleep : Thread → Bool := fun _ => false
  shut : List ℤ := []
  closed : List ℤ := []

/-- What a step did: a critical section of the device, bytes moved on the socket, a call
returned. -/
inductive SysEvent
  | dev (ev : Event)
  | received (bs : List UInt8)
  | sent (bs : List UInt8)
  | returned (t : ℕ) (call : Call) (result : CallResult)
  deriving DecidableEq

namespace Sys

/-- One of the thread bits is set. -/
def running (s : Sys) : Bool :=
  s.flags.readThreadRunning || s.flags.writeThreadRunning

/-- `_s.signal.notify_all()` -/
def notifyAll (s : Sys) : Sys :=
  { s with asleep := fun _ => false }

/-- `_s.signal.wait(lock)`: the thread sleeps and the lock is free. -/
def wait (s : Sys) (th : Thread) : Sys :=
  { s with asleep := Function.update s.asleep th true }

/-- A spurious wake-up. -/
def wake (s : Sys) (th : Thread) : Sys :=
  { s with asleep := Function.update s.asleep th false }

def setClient (s : Sys) (t : ℕ) (pc : ClientPc) : Sys :=
  { s with clients := Function.update s.clients t pc }

/-- The state after handlers ran: `_reply` notifies whenever it enqueues. -/
def setDev (s : Sys) (d : Dev) : Sys :=
  if s.dev.reps.length < d.reps.length then ({ s with dev := d } : Sys).notifyAll
  else { s with dev := d }

/-! ### `_reset` -/

/-- The descriptors of `sockets` that are open. -/
def openSockets (s : Sys) : List ℤ :=
  [s.socket, s.usbipSocket].filter (0 ≤ ·)

/-- `shutdown(s, SHUT_RDWR)` of the open sockets. -/
def shutdownSockets (s : Sys) : Sys :=
  { s with shut := s.openSockets ++ s.shut }

/-- `close(s); s = -1` of the open sockets. -/
def closeSockets (s : Sys) : Sys :=
  { s with
    closed := s.openSockets ++ s.closed
    socket := if 0 ≤ s.socket then -1 else s.socket
    usbipSocket := if 0 ≤ s.usbipSocket then -1 else s.usbipSocket }

/-- The wait loop of `_reset` and what follows it: the thread sleeps while a thread bit is set,
then the sockets are closed.  The flag says whether `_reset` has returned. -/
def resetLoop (s : Sys) (th : Thread) : Bool × Sys :=
  if s.running then (false, s.wait th) else (true, s.closeSockets)

/-- `_reset` from its beginning up to the wait, or to its end if it does not wait.  A device that
has been reset is left alone. -/
def resetEnter (s : Sys) (th : Thread) (e : Err) : Bool × Sys × List SysEvent :=
  if s.flags.reset then (true, s, [])
  else
    let s' : Sys := { s with flags := { s.flags with reset := true }, dev := s.dev.fail e }
    let (finished, s'') := s'.notifyAll.shutdownSockets.resetLoop th
    (finished, s'', [.dev (.failed e)])

end Sys

end VirtualUSB

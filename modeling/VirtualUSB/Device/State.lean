import VirtualUSB.USB
import VirtualUSB.USBIP
import Mathlib.Data.Fintype.Basic

/-!
# The shared state of the device

`Dev` is the part of the struct `_s` that commands, replies and data go through; the rest of `_s`
(the thread flags and the sockets) belongs to the threads.  It holds one history variable that no
code reads: `history`, every reply ever enqueued together with the command it answers.

A handler runs with the lock held.  It may throw in the middle, and what it changed before stays
changed, so a `Handler` returns the state in either case.
-/

namespace VirtualUSB

/-! ### Errors -/

/-- The exceptions the device throws. -/
inductive Err
  /-- `ErrStopped` -/
  | stopped
  /-- `RUNTIME_ERROR(msg)` -/
  | runtime (msg : String)
  /-- `RUNTIME_ERROR("what: %s", strerror(errno))` -/
  | os (what : String) (errno : ℕ)
  /-- An allocation of a size no allocator can serve. -/
  | badAlloc
  deriving DecidableEq, Repr

/-- How a handler ends early: it throws, or an `assert` fails and the process is aborted. -/
inductive Failure
  | thrown (e : Err)
  | aborted
  deriving DecidableEq, Repr

/-! ### Commands, replies, data -/

/-- `VirtualUSBDevice::_Cmd`.  The payload is the array `payload` with its length `payloadLen`. -/
structure Cmd where
  header : Header := {}
  payload : List UInt8 := []
  deriving DecidableEq, Repr

/-- `VirtualUSBDevice::_Rep` -/
abbrev Rep := Cmd

namespace Cmd

/-- `payloadLen` -/
def payloadLen (c : Cmd) : ℕ := c.payload.length

def command (c : Cmd) : UInt32 := c.header.base.command
def seqnum (c : Cmd) : UInt32 := c.header.base.seqnum
def direction (c : Cmd) : UInt32 := c.header.base.direction
def ep (c : Cmd) : UInt32 := c.header.base.ep

/-- `cmd.header.cmd_submit.transfer_buffer_length` -/
def transferBufferLength (c : Cmd) : Int32 := c.header.cmdSubmit.transferBufferLength

/-- `cmd.header.cmd_submit.setup.u8` -/
def setup (c : Cmd) : Vector UInt8 8 := c.header.cmdSubmit.setup

/-- `cmd.header.cmd_unlink.seqnum` -/
def unlinkSeqnum (c : Cmd) : UInt32 := c.header.cmdUnlinkSeqnum

/-- A SUBMIT with the given fields; the others are zero. -/
def submit (seqnum direction ep : UInt32) (transferBufferLength : Int32)
    (payload : List UInt8 := []) (setup : Vector UInt8 8 := Vector.replicate 8 0) : Cmd where
  header := Header.setCmdSubmit
    { base := { command := usbipCmdSubmit, seqnum := seqnum, direction := direction, ep := ep } }
    { transferFlags := 0, transferBufferLength := transferBufferLength, startFrame := 0,
      numberOfPackets := 0, interval := 0, setup := setup }
  payload := payload

/-- An UNLINK of the command with the number `target`. -/
def unlink (seqnum target : UInt32) : Cmd where
  header := Header.setCmdUnlinkSeqnum
    { base := { command := usbipCmdUnlink, seqnum := seqnum } } target

end Cmd

/-- The conversion of an `int32_t` to `size_t`. -/
def sizeOfInt32 (x : Int32) : ℕ := (x.toInt % 2 ^ 64).toNat

/-- `VirtualUSBDevice::Xfer` -/
structure Xfer where
  ep : UInt8 := 0
  setupReq : SetupRequest := {}
  data : List UInt8 := []
  deriving DecidableEq, Repr

/-- `xfer.len` -/
def Xfer.len (x : Xfer) : ℕ := x.data.length

/-- `_Data`: a buffer passed to `write()` of which the first `off` bytes were sent. -/
structure Data where
  data : List UInt8
  off : ℕ := 0
  deriving DecidableEq, Repr

namespace Data

/-- `d.len` -/
def len (d : Data) : ℕ := d.data.length

/-- The bytes that were not sent yet. -/
def unsent (d : Data) : List UInt8 := d.data.drop d.off

/-- `&d.data[d.off]` -/
def ptr (d : Data) : Ptr := fun i => d.data.getD (d.off + i) 0

end Data

/-! ### The state -/

/-- The index of an endpoint deque. -/
abbrev EpIdx := Fin Endpoint.maxCount

/-- The part of `_s` that holds commands, replies and data. -/
structure Dev where
  err : Option Err := none
  /-- The active configuration. -/
  configDesc : Option ConfigDescPtr := none
  cmds : List Cmd := []
  reps : List Rep := []
  inCmds : EpIdx → List Cmd := fun _ => []
  inData : EpIdx → List Data := fun _ => []
  /-- History variable: every reply enqueued so far, with the command it answers. -/
  history : List (Cmd × Rep) := []
  /-- History variable: the status that was passed to `_reply` for each of these replies. -/
  statuses : List Int32 := []

/-- `_s.err = err` of a device that has no error yet. -/
def Dev.fail (d : Dev) (e : Err) : Dev :=
  if d.err.isSome then d else { d with err := some e }

/-! ### Handlers -/

/-- A piece of code that runs with the lock held. -/
def Handler (α : Type) : Type := Dev → Except Failure α × Dev

namespace Handler

variable {α β : Type}

/-- Run a handler on a state. -/
def run (x : Handler α) (d : Dev) : Except Failure α × Dev := x d

instance : Monad Handler where
  pure a := fun d => (.ok a, d)
  bind x f := fun d =>
    match x d with
    | (.ok a, d') => f a d'
    | (.error e, d') => (.error e, d')

/-- Read the state. -/
def get : Handler Dev := fun d => (.ok d, d)

/-- Change the state. -/
def modify (f : Dev → Dev) : Handler Unit := fun d => (.ok (), f d)

/-- `throw` -/
def throw (e : Err) : Handler α := fun d => (.error (.thrown e), d)

/-- `throw RUNTIME_ERROR(msg)` -/
def throwRuntime (msg : String) : Handler α := throw (.runtime msg)

/-- `assert(p)` -/
def assert (p : Bool) : Handler Unit := fun d => if p then (.ok (), d) else (.error .aborted, d)

@[simp] theorem run_pure (a : α) (d : Dev) : (pure a : Handler α).run d = (.ok a, d) := rfl

@[simp] theorem run_get (d : Dev) : get.run d = (.ok d, d) := rfl

@[simp] theorem run_modify (f : Dev → Dev) (d : Dev) : (modify f).run d = (.ok (), f d) := rfl

@[simp] theorem run_throw (e : Err) (d : Dev) :
    (throw e : Handler α).run d = (.error (.thrown e), d) := rfl

@[simp] theorem run_throwRuntime (msg : String) (d : Dev) :
    (throwRuntime msg : Handler α).run d = (.error (.thrown (.runtime msg)), d) := rfl

theorem run_assert (p : Bool) (d : Dev) :
    (assert p).run d = if p then (.ok (), d) else (.error .aborted, d) := rfl

theorem run_bind (x : Handler α) (f : α → Handler β) (d : Dev) :
    (x >>= f).run d =
      match x.run d with
      | (.ok a, d') => (f a).run d'
      | (.error e, d') => (.error e, d') := rfl

/-- The first part of a sequence succeeds. -/
theorem run_bind_ok {x : Handler α} {f : α → Handler β} {d d' : Dev} {a : α}
    (h : x.run d = (.ok a, d')) : (x >>= f).run d = (f a).run d' := by
  rw [run_bind, h]

@[simp] theorem run_bind_get (f : Dev → Handler β) (d : Dev) :
    (get >>= f).run d = (f d).run d := rfl

@[simp] theorem run_bind_modify (g : Dev → Dev) (f : Unit → Handler β) (d : Dev) :
    (modify g >>= f).run d = (f ()).run (g d) := rfl

end Handler

end VirtualUSB

import VirtualUSB.Base.LabelledSystem
import VirtualUSB.Device.Handlers

/-!
# The device as a transition system

`device info` is the system whose inputs are the critical sections that touch commands, replies
and data: a command arrives, `read()` takes and handles one command, `write()` is called, the
writer thread takes a reply, somebody sets the error.  A whole `read()` call handles commands until
one yields an `Xfer` (`readCmds`); it is a sequence of `handle` steps.

The events record what happened; the functions at the end of the file read the histories off them
that the properties of the device are about.
-/

namespace VirtualUSB

open Endian Handler

/-! ### Critical sections -/

/-- `ep & IndexMask` -/
def writeIdx (ep : UInt8) : EpIdx :=
  ⟨(ep &&& Endpoint.indexMask).toNat, by
    have h : ep &&& Endpoint.indexMask ≤ Endpoint.indexMask := UInt8.and_le_right
    have h' := UInt8.le_iff_toNat_le.mp h
    have hm : Endpoint.indexMask.toNat = 15 := rfl
    show _ < 32
    omega⟩

/-- The body of `write()` on a device without an error. -/
def writeData (epIdx : EpIdx) (data : List UInt8) : Handler Unit := do
  modify fun d =>
    { d with inData := setDeque d.inData epIdx (d.inData epIdx ++ [{ data := data }]) }
  sendDataForInEndpoint epIdx

/-- The critical sections. -/
inductive Op
  /-- The reader thread appends a command to `cmds`. -/
  | arrive (c : Cmd)
  /-- `read()` takes the front command of `cmds` and handles it. -/
  | handle
  /-- `write(ep, data, len)` is called. -/
  | write (ep : UInt8) (data : List UInt8)
  /-- The writer thread takes the front reply of `reps`. -/
  | dequeue
  /-- `_reset()` is called with an error. -/
  | fail (e : Err)

/-- What a critical section did. -/
inductive Event
  | arrived (c : Cmd)
  /-- `_handleCmd(c)` returned `xfer`; for an UNLINK `target` is the command that was waiting
  under the number it names. -/
  | handled (c : Cmd) (target : Option Cmd) (xfer : Option Xfer)
  /-- `_handleCmd(c)` threw. -/
  | rejected (c : Cmd) (e : Err)
  | wrote (epIdx : EpIdx) (data : List UInt8)
  /-- `write()` was called on a device that has an error. -/
  | refused (epIdx : EpIdx) (data : List UInt8)
  | dequeued (r : Rep)
  | failed (e : Err)
  deriving DecidableEq

/-- The commands that wait in the deques. -/
def waiting (d : Dev) : List Cmd :=
  (List.finRange Endpoint.maxCount).flatMap d.inCmds

/-- The command that waits under a number. -/
def waitingFor (d : Dev) (seqnum : UInt32) : Option Cmd :=
  (waiting d).find? fun c => c.seqnum == seqnum

/-- The command an UNLINK finds waiting. -/
def unlinkTarget (d : Dev) (c : Cmd) : Option Cmd :=
  if c.command = usbipCmdUnlink then waitingFor d c.unlinkSeqnum else none

/-- One turn of the loop of `read()`: the front command was taken from `cmds` and is handled. -/
def handleStep (info : Info) (d : Dev) (c : Cmd) (cs : List Cmd) : Option (Dev × List Event) :=
  match (handleCmd info c).run { d with cmds := cs } with
  | (.ok xfer, d') => some (d', [.handled c (unlinkTarget d c) xfer])
  | (.error (.thrown e), d') => some (d'.fail e, [.rejected c e])
  | (.error .aborted, _) => none

/-- `write()` with the lock held: on a device with an error it does nothing. -/
def writeStep (d : Dev) (epIdx : EpIdx) (data : List UInt8) : Option (Dev × List Event) :=
  if d.err.isSome then
    some (d, [.refused epIdx data])
  else
    match (writeData epIdx data).run d with
    | (.ok (), d') => some (d', [.wrote epIdx data])
    | (.error (.thrown e), d') => some (d'.fail e, [.failed e])
    | (.error .aborted, _) => none

/-- The effect of a critical section.  A failed assertion aborts the process. -/
def Dev.step (info : Info) (d : Dev) : Op → Option (Dev × List Event)
  | .arrive c => some ({ d with cmds := d.cmds ++ [c] }, [.arrived c])
  | .handle =>
    match d.err, d.cmds with
    | none, c :: cs => handleStep info d c cs
    | _, _ => none
  | .write ep data =>
    if ep &&& Endpoint.directionMask = Endpoint.directionIn then writeStep d (writeIdx ep) data
    else none
  | .dequeue =>
    match d.err, d.reps with
    | none, r :: rs => some ({ d with reps := rs }, [.dequeued r])
    | _, _ => none
  | .fail e => some (d.fail e, [.failed e])

/-- The device with the given descriptors. -/
def device (info : Info) : LabelledSystem Dev Op Event where
  init := {}
  step := Dev.step info

/-- An `Info` with one configuration, of nine bytes and with the value 1, and no strings. -/
def Info.minimal : Info where
  deviceDesc := fun k =>
    [18, 1, 0, 2, 2, 0, 0, 16, 0x34, 0x12, 0x78, 0x56, 0, 1, 1, 2, 0, 1].getD k 0
  configDescs := fun _ k => [9, 2, 9, 0, 0, 1, 0, 0x80, 50].getD k 0
  configDescsCount := 1

/-- The setup bytes of GetStatus. -/
def getStatusSetup : Vector UInt8 8 := #v[0x80, Request.getStatus, 0, 0, 0, 0, 2, 0]

/-! ### `read()` -/

/-- How the loop of `read()` under one holding of the lock ends. -/
inductive ReadOut
  /-- A command yielded an `Xfer`. -/
  | xfer (x : Xfer)
  /-- `cmds` is empty. -/
  | empty
  /-- Handling a command threw, or the device has an error. -/
  | threw (e : Err)
  /-- An assertion failed. -/
  | aborted
  deriving DecidableEq

/-- The loop of `read()` over the commands that are there: take and handle commands until one
yields an `Xfer`, one throws, or none is left. -/
def readCmds (info : Info) : List Cmd → Dev → ReadOut × Dev × List Event
  | [], d => (.empty, d, [])
  | c :: cs, d =>
    match (handleCmd info c).run { d with cmds := cs } with
    | (.ok (some x), d') => (.xfer x, d', [.handled c (unlinkTarget d c) (some x)])
    | (.ok none, d') =>
      let (out, d'', evs) := readCmds info cs d'
      (out, d'', .handled c (unlinkTarget d c) none :: evs)
    | (.error (.thrown e), d') => (.threw e, d'.fail e, [.rejected c e])
    | (.error .aborted, d') => (.aborted, d', [])

/-- The loop of `read()` from the moment it has the lock. -/
def readSection (info : Info) (d : Dev) : ReadOut × Dev × List Event :=
  match d.err with
  | some e => (.threw e, d, [])
  | none => readCmds info d.cmds d

/-! ### Histories -/

/-- The commands that arrived, in order. -/
def arrivals (evs : List Event) : List Cmd :=
  evs.filterMap fun
    | .arrived c => some c
    | _ => none

/-- The replies that the writer thread took, in order. -/
def dequeues (evs : List Event) : List Rep :=
  evs.filterMap fun
    | .dequeued r => some r
    | _ => none

/-- The commands that were taken from `cmds`, in order. -/
def popped (evs : List Event) : List Cmd :=
  evs.filterMap fun
    | .handled c _ _ => some c
    | .rejected c _ => some c
    | _ => none

/-- The commands that were handled without an error, in order. -/
def handledCmds (evs : List Event) : List Cmd :=
  evs.filterMap fun
    | .handled c _ _ => some c
    | _ => none

/-- The UNLINKs that found their target waiting, with the target. -/
def unlinked (evs : List Event) : List (Cmd × Cmd) :=
  evs.filterMap fun
    | .handled c (some t) _ => some (c, t)
    | _ => none

/-- The `Xfer`s that were returned, in order. -/
def xfers (evs : List Event) : List Xfer :=
  evs.filterMap fun
    | .handled _ _ (some x) => some x
    | _ => none

/-- The buffers that `write()` took for an endpoint, in order. -/
def written (e : EpIdx) (evs : List Event) : List (List UInt8) :=
  evs.filterMap fun
    | .wrote e' data => if e' = e then some data else none
    | _ => none

/-- The buffers of all calls of `write()` for an endpoint, in order. -/
def passed (e : EpIdx) (evs : List Event) : List (List UInt8) :=
  evs.filterMap fun
    | .wrote e' data => if e' = e then some data else none
    | .refused e' data => if e' = e then some data else none
    | _ => none

/-- An IN data transfer on a deque: a SUBMIT with direction IN that is not an endpoint-0 standard
request and whose endpoint number is cut to the index of the deque. -/
def isInTransfer (e : EpIdx) (c : Cmd) : Bool :=
  c.command == usbipCmdSubmit && c.direction == usbipDirIn &&
    !(c.ep == 0 && standardType (getSetupRequest c)) && epIdxOf c == some e

/-- The IN commands queued on an endpoint, in order. -/
def queued (e : EpIdx) (evs : List Event) : List Cmd :=
  (handledCmds evs).filter (isInTransfer e)

/-- The replies `_sendDataForInEndpoint` enqueued for an endpoint, each with its command. -/
def sent (e : EpIdx) (d : Dev) : List (Cmd × Rep) :=
  d.history.filter fun p => isInTransfer e p.1

@[simp] theorem arrivals_append (evs evs' : List Event) :
    arrivals (evs ++ evs') = arrivals evs ++ arrivals evs' :=
  List.filterMap_append

@[simp] theorem dequeues_append (evs evs' : List Event) :
    dequeues (evs ++ evs') = dequeues evs ++ dequeues evs' :=
  List.filterMap_append

@[simp] theorem popped_append (evs evs' : List Event) :
    popped (evs ++ evs') = popped evs ++ popped evs' :=
  List.filterMap_append

@[simp] theorem handledCmds_append (evs evs' : List Event) :
    handledCmds (evs ++ evs') = handledCmds evs ++ handledCmds evs' :=
  List.filterMap_append

@[simp] theorem unlinked_append (evs evs' : List Event) :
    unlinked (evs ++ evs') = unlinked evs ++ unlinked evs' :=
  List.filterMap_append

@[simp] theorem xfers_append (evs evs' : List Event) :
    xfers (evs ++ evs') = xfers evs ++ xfers evs' :=
  List.filterMap_append

@[simp] theorem written_append (e : EpIdx) (evs evs' : List Event) :
    written e (evs ++ evs') = written e evs ++ written e evs' :=
  List.filterMap_append

@[simp] theorem queued_append (e : EpIdx) (evs evs' : List Event) :
    queued e (evs ++ evs') = queued e evs ++ queued e evs' := by
  simp [queued]

/-! ### Replies -/

/-- The replies enqueued so far. -/
def replies (d : Dev) : List Rep :=
  d.history.map Prod.snd

/-- The command of a reply, which lies in it in network order. -/
def repCommand (r : Rep) : UInt32 :=
  hfbU32 r.header.base.command

/-- The number of a reply, which lies in it in network order. -/
def repSeqnum (r : Rep) : UInt32 :=
  hfbU32 r.header.base.seqnum

/-- The RET_SUBMITs with the given number. -/
def retSubmits (d : Dev) (seqnum : UInt32) : List Rep :=
  (replies d).filter fun r => repCommand r == usbipRetSubmit && repSeqnum r == seqnum

/-- The RET_UNLINKs with the given number. -/
def retUnlinks (d : Dev) (seqnum : UInt32) : List Rep :=
  (replies d).filter fun r => repCommand r == usbipRetUnlink && repSeqnum r == seqnum

/-- `ret_submit.actual_length` of a reply. -/
def repActualLength (r : Rep) : Int32 :=
  hfbS32 r.header.retSubmit.actualLength

/-- `ret_unlink.status` of a reply. -/
def repUnlinkStatus (r : Rep) : Int32 :=
  hfbS32 r.header.retUnlinkStatus

end VirtualUSB

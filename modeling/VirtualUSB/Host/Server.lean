import VirtualUSB.Base.GreedyMatch
import VirtualUSB.Device.System
import VirtualUSB.Host.Messages

/-!
# What the device is for the host

`server info` is a USB/IP server said in terms of messages, replies and written buffers.  It takes
one message or one buffer at a time and answers at once: it has no bytes on a wire, no byte order,
no queue of commands that arrived, no threads and no lock.

* Endpoint 0 answers the standard requests from the descriptors and the active configuration.
* An OUT message is acknowledged and delivered.
* Every IN endpoint is a pipe: the requests for data and the buffers written meet in the order in
  which they come, a request takes what is left of one buffer and at most the bytes it asks for.
* An UNLINK takes a request out of its pipe.
-/

namespace VirtualUSB

open Endian LabelledSystem

/-! ### Messages -/

/-- What comes back in every reply to a message. -/
structure Ticket where
  seqnum : UInt32
  devid : UInt32
  direction : UInt32
  ep : UInt32
  deriving DecidableEq, Repr

/-- The reply to a SUBMIT: how many bytes were transferred and, if the host gets them, which. -/
def Ticket.transferred (t : Ticket) (len : ℕ) (payload : List UInt8) : HostRep where
  command := usbipRetSubmit
  seqnum := t.seqnum
  devid := t.devid
  direction := t.direction
  ep := t.ep
  status := 0
  actualLength := some (Int32.ofNat len)
  payload := payload

/-- The reply to an UNLINK. -/
def Ticket.unlinked (t : Ticket) (status : Int32) : HostRep where
  command := usbipRetUnlink
  seqnum := t.seqnum
  devid := t.devid
  direction := t.direction
  ep := t.ep
  status := status
  actualLength := none
  payload := []

/-- What a message asks for. -/
inductive Purpose
  /-- A standard request on endpoint 0. -/
  | control (req : SetupRequest) (length : ℕ)
  | deliver (xfer : Xfer)
  /-- Up to `room` bytes of an IN endpoint. -/
  | collect (e : EpIdx) (room : ℕ)
  | cancel (target : UInt32)
  /-- The server has no answer. -/
  | invalid

/-- The setup bytes are in little-endian order. -/
def setupRequestOf (setup : Vector UInt8 8) : SetupRequest where
  bmRequestType := setup.get 0
  bRequest := setup.get 1
  wValue := leWord16 (setup.get 2) (setup.get 3)
  wIndex := leWord16 (setup.get 4) (setup.get 5)
  wLength := leWord16 (setup.get 6) (setup.get 7)

/-- The pipe that an endpoint number names: its last eight bits count. -/
def pipeOf (ep : UInt32) : Option EpIdx :=
  if h : ep.toUInt8.toNat < Endpoint.maxCount then some ⟨ep.toUInt8.toNat, h⟩ else none

namespace HostMsg

def ticket : HostMsg → Ticket
  | .submit seqnum devid direction ep _ _ => ⟨seqnum, devid, direction, ep⟩
  | .unlink seqnum devid direction ep _ _ => ⟨seqnum, devid, direction, ep⟩

def purpose : HostMsg → Purpose
  | .submit _ _ direction ep cmd payload =>
    let req := setupRequestOf cmd.setup
    let length := cmd.transferBufferLength.toInt.toNat
    if ep = 0 ∧ standardType req = true then .control req length
    else
      match pipeOf ep with
      | none => .invalid
      | some e =>
        if direction = usbipDirOut then
          .deliver { ep := ep.toUInt8, setupReq := if ep = 0 then req else {}, data := payload }
        else if direction = usbipDirIn then .collect e length
        else .invalid
  | .unlink _ _ _ ep target _ =>
    match pipeOf ep with
    | none => .invalid
    | some _ => .cancel target

/-- The transfer that a message delivers. -/
def delivered (m : HostMsg) : Option Xfer :=
  match m.purpose with
  | .deliver x => some x
  | _ => none

end HostMsg

/-! ### The state -/

/-- A request that waits for data. -/
structure DataRequest where
  ticket : Ticket
  room : ℕ
  deriving DecidableEq, Repr

/-- A request takes the beginning of what is left of a buffer; the rest stays. -/
def DataRequest.serve (p : DataRequest) (left : List UInt8) : HostRep × Option (List UInt8) :=
  (p.ticket.transferred (left.take p.room).length (left.take p.room),
    if left.drop p.room = [] then none else some (left.drop p.room))

/-- The active configuration and the pipes: the requests that wait and the buffers that are
left. -/
structure Server where
  config : Option ConfigDescPtr := none
  pending : EpIdx → List DataRequest := fun _ => []
  left : EpIdx → List (List UInt8) := fun _ => []

namespace Server

/-! ### Endpoint 0 -/

/-- The bytes of the descriptor that a request names, as many as it asks for at most. -/
def descriptor (info : Info) (req : SetupRequest) : Option (List UInt8) :=
  match selectDescriptor info req with
  | .error _ => none
  | .ok (none, _) => some []
  | .ok (some desc, len) => some (desc.read (min len req.wLength.toNat))

/-- The status word of a configuration: its first bit says whether it is self-powered. -/
def statusWord (config : ConfigDescPtr) : List UInt8 :=
  [if selfPowered config.desc then 1 else 0, 0]

/-- The answer to a standard request: the active configuration afterwards, and the data. -/
def control (info : Info) (config : Option ConfigDescPtr) (direction : UInt32)
    (req : SetupRequest) (length : ℕ) : Option (Option ConfigDescPtr × List UInt8) :=
  if req.bmRequestType &&& RequestType.recipientMask ≠ RequestType.recipientDevice then none
  else if req.bRequest = Request.setConfiguration then
    if direction = usbipDirIn ∨ direction = usbipDirOut ∧ length = 0 then
      (findConfig info (req.wValue &&& 0x00FF).toUInt8).map fun i =>
        (some (info.configDescPtr i), [])
    else none
  else if direction ≠ usbipDirIn then none
  else if req.bRequest = Request.getStatus then config.map fun p => (config, statusWord p)
  else if req.bRequest = Request.getDescriptor then
    (descriptor info req).map fun data => (config, data)
  else none

/-! ### The pipes -/

/-- Requests and buffers of a pipe meet as long as there are both. -/
def settle (s : Server) (e : EpIdx) : Server × List HostRep :=
  let (replies, pending, left) := GreedyMatch.drain DataRequest.serve (s.pending e) (s.left e)
  ({ s with
      pending := Function.update s.pending e pending
      left := Function.update s.left e left }, replies)

/-- The first pipe in which a request with the given number waits. -/
def pipeWith (s : Server) (seqnum : UInt32) : Option EpIdx :=
  (List.finRange Endpoint.maxCount).find? fun e =>
    (s.pending e).any fun p => p.ticket.seqnum == seqnum

/-- Take the first request with the given number out of its pipe. -/
def cancel (s : Server) (seqnum : UInt32) : Bool × Server :=
  match s.pipeWith seqnum with
  | none => (false, s)
  | some e =>
    (true, { s with
      pending := Function.update s.pending e
        ((s.pending e).eraseP fun p => p.ticket.seqnum == seqnum) })

end Server

/-! ### The server -/

/-- A message of the host, or a buffer that is written for a pipe. -/
inductive ServerOp
  | message (m : HostMsg)
  | write (e : EpIdx) (data : List UInt8)

inductive ServerEvent
  | answered (r : HostRep)
  | delivered (x : Xfer)
  deriving DecidableEq

/-- The effect of a message or of a buffer. -/
def Server.step (info : Info) (s : Server) : ServerOp → Option (Server × List ServerEvent)
  | .message m =>
    match m.purpose with
    | .control req length =>
      (control info s.config m.ticket.direction req length).map fun p =>
        ({ s with config := p.1 }, [.answered (m.ticket.transferred p.2.length p.2)])
    | .deliver xfer =>
      some (s, [.answered (m.ticket.transferred xfer.len []), .delivered xfer])
    | .collect e room =>
      let (s', replies) := settle
        { s with pending := Function.update s.pending e (s.pending e ++ [⟨m.ticket, room⟩]) } e
      some (s', replies.map .answered)
    | .cancel target =>
      let (found, s') := s.cancel target
      some (s', [.answered (m.ticket.unlinked (if found then -econnreset else 0))])
    | .invalid => none
  | .write e data =>
    let (s', replies) := settle { s with left := Function.update s.left e (s.left e ++ [data]) } e
    some (s', replies.map .answered)

/-- The server with the given descriptors. -/
def server (info : Info) : LabelledSystem Server ServerOp ServerEvent where
  init := {}
  step := Server.step info

/-! ### Histories -/

/-- The messages that the server took, in order. -/
def messagesOf (ops : List ServerOp) : List HostMsg :=
  ops.filterMap fun
    | .message m => some m
    | _ => none

/-- The buffers that were written for a pipe, in order. -/
def buffersOf (e : EpIdx) (ops : List ServerOp) : List (List UInt8) :=
  ops.filterMap fun
    | .write e' data => if e' = e then some data else none
    | _ => none

/-- The replies of the server, in order. -/
def answersOf (evs : List ServerEvent) : List HostRep :=
  evs.filterMap fun
    | .answered r => some r
    | _ => none

/-- The transfers that the server delivered, in order. -/
def deliveriesOf (evs : List ServerEvent) : List Xfer :=
  evs.filterMap fun
    | .delivered x => some x
    | _ => none

@[simp] theorem messagesOf_append (ops ops' : List ServerOp) :
    messagesOf (ops ++ ops') = messagesOf ops ++ messagesOf ops' :=
  List.filterMap_append

@[simp] theorem buffersOf_append (e : EpIdx) (ops ops' : List ServerOp) :
    buffersOf e (ops ++ ops') = buffersOf e ops ++ buffersOf e ops' :=
  List.filterMap_append

@[simp] theorem answersOf_append (evs evs' : List ServerEvent) :
    answersOf (evs ++ evs') = answersOf evs ++ answersOf evs' :=
  List.filterMap_append

@[simp] theorem deliveriesOf_append (evs evs' : List ServerEvent) :
    deliveriesOf (evs ++ evs') = deliveriesOf evs ++ deliveriesOf evs' :=
  List.filterMap_append

@[simp] theorem answersOf_map_answered (rs : List HostRep) :
    answersOf (rs.map .answered) = rs := by
  simp [answersOf, List.filterMap_map]

@[simp] theorem deliveriesOf_map_answered (rs : List HostRep) :
    deliveriesOf (rs.map .answered) = [] := by
  simp [deliveriesOf, List.filterMap_map]

end VirtualUSB

import VirtualUSB.Device.State
import Mathlib.Data.List.FinRange

/-!
# The command handlers (`VirtualUSBDevice.cpp`)

`handleCmd` and everything below it, as the source computes it: `reply`, the endpoint-0 standard
requests, OUT and IN commands of the other endpoints, the matcher `sendDataForInEndpoint` and
UNLINK.  The IN matcher pops one command a turn, so its loop is bounded by the number of waiting
commands.
-/

namespace VirtualUSB

open Endian Handler

/-! ### Replies -/

/-- The assertion of `_reply` on its arguments for a SUBMIT. -/
def replyArgsValid (direction : UInt32) (data : Option Ptr) (len : ℕ) : Bool :=
  (direction == usbipDirIn && (len != 0 && data.isSome || len == 0)) ||
    (direction == usbipDirOut && data.isNone)

/-- The base of a reply to `cmd`, in network order. -/
def replyBase (command : UInt32) (cmd : Cmd) : HeaderBasic where
  command := bfhU32 command
  seqnum := bfhU32 cmd.seqnum
  devid := bfhU32 cmd.header.base.devid
  direction := bfhU32 cmd.direction
  ep := bfhU32 cmd.ep

/-- The RET_SUBMIT that `_reply` builds. -/
def retSubmit (cmd : Cmd) (payload : List UInt8) (len : ℕ) : Rep where
  header := Header.setRetSubmit { base := replyBase usbipRetSubmit cmd }
    { status := bfhS32 0
      actualLength := bfhS32 (Int32.ofNat len)
      startFrame := bfhS32 0
      numberOfPackets := bfhS32 0
      errorCount := bfhS32 0 }
  payload := payload

/-- The RET_UNLINK that `_reply` builds. -/
def retUnlink (cmd : Cmd) (status : Int32) : Rep where
  header := Header.setRetUnlinkStatus { base := replyBase usbipRetUnlink cmd } (bfhS32 status)

/-- `_s.reps.push_back(rep)`; the histories keep the command and the status that was passed too. -/
def enqueue (cmd : Cmd) (rep : Rep) (status : Int32) (d : Dev) : Dev :=
  { d with
    reps := d.reps ++ [rep]
    history := d.history ++ [(cmd, rep)]
    statuses := d.statuses ++ [status] }

/-- `_reply`.  Only a RET_UNLINK carries `status`; `len` bytes are copied for an IN transfer. -/
def reply (cmd : Cmd) (data : Option Ptr) (len : ℕ) (status : Int32 := 0) : Handler Unit :=
  if cmd.command = usbipCmdSubmit then do
    assert (replyArgsValid cmd.direction data len)
    let payload :=
      if cmd.direction = usbipDirIn ∧ len ≠ 0 then (data.map fun p => p.read len).getD [] else []
    modify (enqueue cmd (retSubmit cmd payload len) status)
  else if cmd.command = usbipCmdUnlink then
    modify (enqueue cmd (retUnlink cmd status) status)
  else
    throwRuntime ("invalid cmd.header.base.command: " ++ toString cmd.command)

/-! ### Endpoint-0 standard requests -/

/-- `_GetSetupRequest` -/
def getSetupRequest (cmd : Cmd) : SetupRequest where
  bmRequestType := cmd.setup[0]
  bRequest := cmd.setup[1]
  wValue := hflU16 (leWord16 cmd.setup[2] cmd.setup[3])
  wIndex := hflU16 (leWord16 cmd.setup[4] cmd.setup[5])
  wLength := hflU16 (leWord16 cmd.setup[6] cmd.setup[7])

/-- `_GetEndpointAddr`: the 32-bit number is cut to eight bits. -/
def getEndpointAddr (cmd : Cmd) : UInt8 :=
  cmd.ep.toUInt8 ||| (if cmd.direction = usbipDirIn then 0x80 else 0x00)

/-- The search loop of SetConfiguration: the first configuration with the given value. -/
def findConfig (info : Info) (val : UInt8) : Option ℕ :=
  (List.range info.configDescsCount).find? fun i => configVal (info.configDescs i) == val

/-- SetConfiguration, the same code for both directions: the configuration is assigned inside the
search loop, and a value that is not found throws. -/
def setConfiguration (info : Info) (cmd : Cmd) (req : SetupRequest) (len : ℕ) : Handler Unit :=
  let val := (req.wValue &&& 0x00FF).toUInt8
  match findConfig info val with
  | some i => do
    modify fun d => { d with configDesc := some (info.configDescPtr i) }
    reply cmd none len
  | none => throwRuntime ("invalid Configuration value: " ++ toString val)

/-- GetStatus -/
def getStatus (cmd : Cmd) : Handler Unit := do
  let d ← get
  match d.configDesc with
  | none => throwRuntime "no active configuration"
  | some configDesc =>
    let word := lfhU16 (if selfPowered configDesc.desc then 1 else 0)
    let bytes : Ptr := fun k => if k = 0 then word.toUInt8 else (word >>> 8).toUInt8
    reply cmd (some bytes) 2

/-- The descriptor that GetDescriptor answers with and its length.  The length of a device
descriptor is taken from the configuration table. -/
def selectDescriptor (info : Info) (req : SetupRequest) : Except Err (Option Ptr × ℕ) :=
  let descType := ((req.wValue &&& 0xFF00) >>> 8).toUInt8
  let descIdx := (req.wValue &&& 0x00FF).toUInt8
  if descType = DescriptorType.device then
    .ok (some info.deviceDesc, descLenConfiguration (info.configDescs descIdx.toNat))
  else if descType = DescriptorType.configuration then
    if descIdx.toNat ≥ info.configDescsCount then
      .error (.runtime ("invalid Configuration descriptor index: " ++ toString descIdx))
    else
      .ok (some (info.configDescs descIdx.toNat),
        descLenConfiguration (info.configDescs descIdx.toNat))
  else if descType = DescriptorType.string then
    match info.stringDescs with
    | none => .ok (none, 0)
    | some descs =>
      if descIdx.toNat ≥ info.stringDescsCount then
        .error (.runtime ("invalid String descriptor index: " ++ toString descIdx))
      else
        .ok (some (descs descIdx.toNat), descLenString (descs descIdx.toNat))
  else if descType = DescriptorType.deviceQualifier then
    match info.deviceQualifierDesc with
    | none => .ok (none, 0)
    | some desc => .ok (some desc, descLenDeviceQualifier desc)
  else
    .ok (none, 0)

/-- GetDescriptor: the length is capped to `wLength`. -/
def getDescriptor (info : Info) (cmd : Cmd) (req : SetupRequest) : Handler Unit :=
  match selectDescriptor info req with
  | .error e => throw e
  | .ok (replyData, replyDataLen) =>
    let status : Int32 := if replyData.isSome then 0 else 1
    reply cmd replyData (min replyDataLen req.wLength.toNat) status

/-- `_handleCmdSubmitEP0StandardRequest` -/
def handleCmdSubmitEP0StandardRequest (info : Info) (cmd : Cmd) (req : SetupRequest) :
    Handler Unit :=
  let recipient := req.bmRequestType &&& RequestType.recipientMask
  if recipient ≠ RequestType.recipientDevice then
    throwRuntime ("invalid recipient: " ++ toString recipient)
  else if cmd.direction = usbipDirIn then
    if req.bRequest = Request.getStatus then
      getStatus cmd
    else if req.bRequest = Request.getDescriptor then
      getDescriptor info cmd req
    else if req.bRequest = Request.setConfiguration then
      setConfiguration info cmd req 0
    else
      throwRuntime ("invalid device->host standard request: " ++ toString req.bRequest)
  else if cmd.direction = usbipDirOut then
    let payloadLen := sizeOfInt32 cmd.transferBufferLength
    if payloadLen ≠ 0 then
      throwRuntime "unexpected payload for EP0 standard request"
    else if req.bRequest = Request.setConfiguration then
      setConfiguration info cmd req payloadLen
    else
      throwRuntime ("invalid host->device standard request: " ++ toString req.bRequest)
  else
    throwRuntime "invalid Cmd direction"

/-! ### The IN matcher -/

/-- Replace one deque. -/
def setDeque {α : Type} (f : EpIdx → List α) (e : EpIdx) (l : List α) : EpIdx → List α :=
  Function.update f e l

/-- One turn of the loop of `_sendDataForInEndpoint`: answer the front command from the front
data.  The bytes still to be sent are `d.len - d.off`, which never wraps. -/
def sendDataTurn (epIdx : EpIdx) (cmd : Cmd) (cmds : List Cmd) (x : Data) (data : List Data) :
    Handler Unit := do
  let len := min (sizeOfInt32 cmd.transferBufferLength) (x.len - x.off)
  reply cmd (some x.ptr) len
  let x' : Data := { x with off := x.off + len }
  modify fun d => { d with inCmds := setDeque d.inCmds epIdx cmds }
  modify fun d =>
    { d with
      inData := setDeque d.inData epIdx (if x'.off = x'.len then data else x' :: data) }

/-- The loop of `_sendDataForInEndpoint`, at most `n` turns. -/
def sendDataLoop (epIdx : EpIdx) : ℕ → Handler Unit
  | 0 => pure ()
  | n + 1 => do
    let d ← get
    match d.inCmds epIdx, d.inData epIdx with
    | cmd :: cmds, x :: data =>
      sendDataTurn epIdx cmd cmds x data
      sendDataLoop epIdx n
    | _, _ => pure ()

/-- `_sendDataForInEndpoint`: each turn pops a command, so as many turns as commands suffice. -/
def sendDataForInEndpoint (epIdx : EpIdx) : Handler Unit := do
  let d ← get
  sendDataLoop epIdx (d.inCmds epIdx).length

/-! ### Commands of the other endpoints -/

/-- `const uint8_t epIdx = cmd.header.base.ep` with the check against `MaxCount`. -/
def epIdxOf (cmd : Cmd) : Option EpIdx :=
  if h : cmd.ep.toUInt8.toNat < Endpoint.maxCount then some ⟨cmd.ep.toUInt8.toNat, h⟩ else none

/-- `_handleCmdSubmitEPXOut` -/
def handleCmdSubmitEPXOut (cmd : Cmd) : Handler Xfer :=
  match epIdxOf cmd with
  | none => throwRuntime "invalid epIdx"
  | some _ => do
    reply cmd none cmd.payloadLen
    pure { ep := getEndpointAddr cmd, data := cmd.payload }

/-- `_handleCmdSubmitEPXIn` -/
def handleCmdSubmitEPXIn (cmd : Cmd) : Handler Unit :=
  match epIdxOf cmd with
  | none => throwRuntime "invalid epIdx"
  | some epIdx => do
    modify fun d => { d with inCmds := setDeque d.inCmds epIdx (d.inCmds epIdx ++ [cmd]) }
    sendDataForInEndpoint epIdx

/-- `_handleCmdSubmitEPX` -/
def handleCmdSubmitEPX (cmd : Cmd) : Handler (Option Xfer) :=
  if cmd.direction = usbipDirOut then do
    let xfer ← handleCmdSubmitEPXOut cmd
    pure (some xfer)
  else if cmd.direction = usbipDirIn then do
    handleCmdSubmitEPXIn cmd
    pure none
  else
    throwRuntime "invalid Cmd direction"

/-- The request is of the standard type. -/
def standardType (req : SetupRequest) : Bool :=
  req.bmRequestType &&& RequestType.typeMask == RequestType.typeStandard

/-- `_handleCmdSubmitEP0` -/
def handleCmdSubmitEP0 (info : Info) (cmd : Cmd) : Handler (Option Xfer) :=
  let setupReq := getSetupRequest cmd
  if standardType setupReq then do
    handleCmdSubmitEP0StandardRequest info cmd setupReq
    pure none
  else do
    let xfer ← handleCmdSubmitEPX cmd
    pure (xfer.map fun x => { x with setupReq := setupReq })

/-! ### UNLINK -/

/-- The first deque that holds a command with the given number. -/
def findInCmds (inCmds : EpIdx → List Cmd) (seqnum : UInt32) : Option EpIdx :=
  (List.finRange Endpoint.maxCount).find? fun e => (inCmds e).any fun c => c.seqnum == seqnum

/-- The search loops of `_handleCmdUnlink`: erase the first command with the given number. -/
def eraseInCmd (inCmds : EpIdx → List Cmd) (seqnum : UInt32) : Bool × (EpIdx → List Cmd) :=
  match findInCmds inCmds seqnum with
  | some e => (true, setDeque inCmds e ((inCmds e).eraseP fun c => c.seqnum == seqnum))
  | none => (false, inCmds)

/-- `_handleCmdUnlink` -/
def handleCmdUnlink (cmd : Cmd) : Handler Unit :=
  match epIdxOf cmd with
  | none => throwRuntime "invalid epIdx"
  | some _ => do
    let d ← get
    let (found, inCmds) := eraseInCmd d.inCmds cmd.unlinkSeqnum
    modify fun d => { d with inCmds := inCmds }
    reply cmd none 0 (if found then -econnreset else 0)

/-! ### All commands -/

/-- `_handleCmd` -/
def handleCmd (info : Info) (cmd : Cmd) : Handler (Option Xfer) :=
  if cmd.command = usbipCmdSubmit then
    if cmd.ep = 0 then handleCmdSubmitEP0 info cmd else handleCmdSubmitEPX cmd
  else if cmd.command = usbipCmdUnlink then do
    handleCmdUnlink cmd
    pure none
  else
    throwRuntime ("invalid USBIP command: " ++ toString cmd.command)

end VirtualUSB

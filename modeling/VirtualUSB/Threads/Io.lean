import VirtualUSB.Threads.State

/-!
# The reader thread and the writer thread (`VirtualUSBDevice.cpp`)

`_readThread` with `_ReadCmd` and `_Read`, and `_writeThread` with `_Write`, one step for each
critical section and for each call of `recv` or `send`.  The two system calls are the only places
where the outside decides: `IoResult` is what they return.
-/

namespace VirtualUSB

open Endian

/-! ### System calls -/

/-- `EINTR` -/
def eintr : ℕ := 4

/-- What a call of `recv` or `send` returns: a positive number of bytes, zero, or an error. -/
inductive IoResult (α : Type)
  | some (a : α)
  | zero
  | failed (errno : ℕ)
  deriving DecidableEq, Repr

/-! ### Decoding a command -/

/-- The conversions of `_ReadCmd`: the base and the part of the union that belongs to the command
are turned from network order into host order, the setup bytes stay as they are. -/
def decodeHeader (h : Header) : Except Err Header :=
  let h' : Header :=
    { h with
      base :=
        { command := hfbU32 h.base.command
          seqnum := hfbU32 h.base.seqnum
          devid := hfbU32 h.base.devid
          direction := hfbU32 h.base.direction
          ep := hfbU32 h.base.ep } }
  if h'.base.command = usbipCmdSubmit then
    .ok (h'.setCmdSubmit
      { transferFlags := hfbU32 h'.cmdSubmit.transferFlags
        transferBufferLength := hfbS32 h'.cmdSubmit.transferBufferLength
        startFrame := hfbS32 h'.cmdSubmit.startFrame
        numberOfPackets := hfbS32 h'.cmdSubmit.numberOfPackets
        interval := hfbS32 h'.cmdSubmit.interval
        setup := h'.cmdSubmit.setup })
  else if h'.base.command = usbipCmdUnlink then
    .ok (h'.setCmdUnlinkSeqnum (hfbU32 h'.cmdUnlinkSeqnum))
  else
    .error (.runtime ("unknown USBIP command: " ++ toString h'.base.command))

/-- `cmd.payloadLen`: only an OUT SUBMIT has a payload. -/
def payloadLenOf (h : Header) : ℕ :=
  if h.base.command = usbipCmdSubmit ∧ h.base.direction = usbipDirOut then
    sizeOfInt32 h.cmdSubmit.transferBufferLength
  else 0

/-- No allocator serves sizes from here on (`PTRDIFF_MAX`). -/
def maxAllocation : ℕ := 2 ^ 63

namespace Sys

/-! ### The reader thread -/

/-- `_ReadCmd` once the header is there: it is decoded, and the payload, if there is one, is
allocated. -/
def readerHeaderDone (socket : ℤ) (buf : List UInt8) : ReaderPc :=
  match decodeHeader (Header.ofBytes buf) with
  | .error e => .caught e
  | .ok h =>
    if payloadLenOf h = 0 then .push socket { header := h }
    else if maxAllocation ≤ payloadLenOf h then .caught .badAlloc
    else .recvPayload socket h (payloadLenOf h) []

/-- The next turn of the loop of `_Read(socket, data, len)` after the `recv` of the turn before
returned bytes: `buf` is what was received, `done` is where the thread goes when it is all. -/
def readerNext (len : ℕ) (buf : List UInt8) (again : List UInt8 → ReaderPc)
    (done : List UInt8 → ReaderPc) : ReaderPc :=
  if buf.length < len then again buf else done buf

/-- A turn of the loop of `_Read`, for a buffer of `len` bytes. -/
def readTurn (s : Sys) (len : ℕ) (buf : List UInt8) (again done : List UInt8 → ReaderPc) :
    IoResult (List UInt8) → Option (Sys × List SysEvent)
  | .some bs =>
    if 0 < bs.length ∧ bs.length ≤ len - buf.length then
      some ({ s with reader := readerNext len (buf ++ bs) again done }, [.received bs])
    else none
  | .zero => some ({ s with reader := .caught (.runtime "recv returned 0") }, [])
  | .failed errno =>
    if errno = eintr then some (s, [])
    else some ({ s with reader := .caught (.os "recv failed" errno) }, [])

/-- `recv` of the reader thread returns. -/
def stepRecv (s : Sys) (r : IoResult (List UInt8)) : Option (Sys × List SysEvent) :=
  match s.reader with
  | .recvHeader socket buf =>
    s.readTurn headerSize buf (.recvHeader socket) (readerHeaderDone socket) r
  | .recvPayload socket h len buf =>
    s.readTurn len buf (.recvPayload socket h len)
      (fun data => .push socket { header := h, payload := data }) r
  | _ => none

/-- The other steps of `_readThread`. -/
def stepReader (s : Sys) : Option (Sys × List SysEvent) :=
  match s.reader with
  | .launched => some ({ s with reader := .recvHeader s.socket [] }, [])
  | .push socket cmd =>
    let s' : Sys :=
      { s with
        dev := { s.dev with cmds := s.dev.cmds ++ [cmd] }
        reader := .recvHeader socket [] }
    some (s'.notifyAll, [.dev (.arrived cmd)])
  | .caught e =>
    let (finished, s', evs) := s.resetEnter .reader e
    some ({ s' with reader := if finished then .exiting else .resetWait }, evs)
  | .resetWait =>
    let (finished, s') := s.resetLoop .reader
    some ({ s' with reader := if finished then .exiting else .resetWait }, [])
  | .exiting =>
    let s' : Sys :=
      { s with flags := { s.flags with readThreadRunning := false }, reader := .exited }
    some (s'.notifyAll, [])
  | _ => none

/-! ### The writer thread -/

/-- A turn of the loop of `_Write`, for the bytes `rest` that were not sent yet. -/
def writeTurn (s : Sys) (rest : List UInt8) (again : List UInt8 → WriterPc) (done : WriterPc) :
    IoResult ℕ → Option (Sys × List SysEvent)
  | .some n =>
    if 0 < n ∧ n ≤ rest.length then
      some ({ s with writer := if rest.drop n = [] then done else again (rest.drop n) },
        [.sent (rest.take n)])
    else none
  | .zero => some ({ s with writer := .caught (.runtime "send returned 0") }, [])
  | .failed errno =>
    if errno = eintr then some (s, [])
    else some ({ s with writer := .caught (.os "send failed" errno) }, [])

/-- `_Write` of a payload sends nothing if the payload is empty. -/
def writerPayload (socket : ℤ) (payload : List UInt8) : WriterPc :=
  if payload = [] then .loop socket else .sendPayload socket payload

/-- `send` of the writer thread returns. -/
def stepSend (s : Sys) (r : IoResult ℕ) : Option (Sys × List SysEvent) :=
  match s.writer with
  | .sendHeader socket rest payload =>
    s.writeTurn rest (fun rest => .sendHeader socket rest payload) (writerPayload socket payload) r
  | .sendPayload socket rest => s.writeTurn rest (.sendPayload socket) (.loop socket) r
  | _ => none

/-- The other steps of `_writeThread`. -/
def stepWriter (s : Sys) : Option (Sys × List SysEvent) :=
  match s.writer with
  | .launched => some ({ s with writer := .loop s.socket }, [])
  | .loop socket =>
    match s.dev.err, s.dev.reps with
    | some e, _ => some ({ s with writer := .caught e }, [])
    | none, [] => some (s.wait .writer, [])
    | none, rep :: reps =>
      some ({ s with
        dev := { s.dev with reps := reps }
        writer := .sendHeader socket rep.header.bytes rep.payload }, [.dev (.dequeued rep)])
  | .caught e =>
    let (finished, s', evs) := s.resetEnter .writer e
    some ({ s' with writer := if finished then .exiting else .resetWait }, evs)
  | .resetWait =>
    let (finished, s') := s.resetLoop .writer
    some ({ s' with writer := if finished then .exiting else .resetWait }, [])
  | .exiting =>
    let s' : Sys :=
      { s with flags := { s.flags with writeThreadRunning := false }, writer := .exited }
    some (s'.notifyAll, [])
  | _ => none

end Sys

end VirtualUSB

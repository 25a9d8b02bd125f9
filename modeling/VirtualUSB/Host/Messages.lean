import VirtualUSB.Device.State
import VirtualUSB.Base.Framing

/-!
# The host's side of USB/IP

What the host sends, and how it reads what the device sends, as the USB/IP protocol has it.
Nothing here is code of the device: the reader thread and the writer thread are compared with it.
-/

namespace VirtualUSB

open Endian

/-! ### Messages to the device -/

/-- A message of the host.  The words and bytes that follow the number in the union of an UNLINK
mean nothing and can be anything. -/
inductive HostMsg
  | submit (seqnum devid direction ep : UInt32) (cmd : HeaderCmdSubmit) (payload : List UInt8)
  | unlink (seqnum devid direction ep target : UInt32) (padding : HeaderUnion)
  deriving DecidableEq, Repr

namespace HostMsg

/-- A SUBMIT has a non-negative length, and with direction OUT a payload of that length. -/
def WellFormed : HostMsg → Prop
  | .submit _ _ direction _ cmd payload =>
    0 ≤ cmd.transferBufferLength.toInt ∧
      payload.length =
        if direction = usbipDirOut then cmd.transferBufferLength.toInt.toNat else 0
  | .unlink .. => True

/-- The five words all messages begin with. -/
def encodeBase (command seqnum devid direction ep : UInt32) : List UInt8 :=
  beBytes command ++ beBytes seqnum ++ beBytes devid ++ beBytes direction ++ beBytes ep

/-- The bytes the host sends. -/
def encode : HostMsg → List UInt8
  | .submit seqnum devid direction ep cmd payload =>
    encodeBase usbipCmdSubmit seqnum devid direction ep ++ beBytes cmd.transferFlags ++
      beBytes cmd.transferBufferLength.toUInt32 ++ beBytes cmd.startFrame.toUInt32 ++
      beBytes cmd.numberOfPackets.toUInt32 ++ beBytes cmd.interval.toUInt32 ++
      cmd.setup.toList ++ payload
  | .unlink seqnum devid direction ep target padding =>
    encodeBase usbipCmdUnlink seqnum devid direction ep ++ beBytes target ++
      leBytes padding.word1 ++ leBytes padding.word2 ++ leBytes padding.word3 ++
      leBytes padding.word4 ++ padding.tail.toList

/-- The command that the message is for the device. -/
def toCmd : HostMsg → Cmd
  | .submit seqnum devid direction ep cmd payload =>
    { header := Header.setCmdSubmit
        { base :=
            { command := usbipCmdSubmit, seqnum := seqnum, devid := devid,
              direction := direction, ep := ep } } cmd
      payload := payload }
  | .unlink seqnum devid direction ep target padding =>
    { header := Header.setCmdUnlinkSeqnum
        { base :=
            { command := usbipCmdUnlink, seqnum := seqnum, devid := devid,
              direction := direction, ep := ep }
          union := padding } target }

end HostMsg

/-! ### Replies from the device -/

/-- The word at offset `k` of a message. -/
def beWordAt (bs : List UInt8) (k : ℕ) : UInt32 :=
  beWord (bs.getD k 0) (bs.getD (k + 1) 0) (bs.getD (k + 2) 0) (bs.getD (k + 3) 0)

/-- What the host reads in a reply. -/
structure HostRep where
  command : UInt32
  seqnum : UInt32
  devid : UInt32
  direction : UInt32
  ep : UInt32
  status : Int32
  /-- Only a RET_SUBMIT has it. -/
  actualLength : Option Int32
  payload : List UInt8
  deriving DecidableEq, Repr

/-- The frame format of the replies: a RET_SUBMIT with direction IN is followed by as many bytes as
it announces, every other reply by nothing. -/
def repFraming : Framing UInt8 where
  header := headerSize
  body hdr :=
    if beWordAt hdr 0 = usbipRetSubmit ∧ beWordAt hdr 12 = usbipDirIn then
      (beWordAt hdr 24).toInt32.toInt.toNat
    else 0
  header_pos := headerSize_pos

/-- The reply in a frame. -/
def readRep (f : List UInt8) : HostRep where
  command := beWordAt f 0
  seqnum := beWordAt f 4
  devid := beWordAt f 8
  direction := beWordAt f 12
  ep := beWordAt f 16
  status := (beWordAt f 20).toInt32
  actualLength := if beWordAt f 0 = usbipRetSubmit then some (beWordAt f 24).toInt32 else none
  payload := f.drop headerSize

/-- The host's parser: the complete replies in a stream and what is left. -/
def hostParse (bs : List UInt8) : List HostRep × List UInt8 :=
  ((repFraming.split bs).1.map readRep, (repFraming.split bs).2)

end VirtualUSB

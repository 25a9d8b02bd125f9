import VirtualUSB.Endian

/-!
# USB/IP headers (`USBIP.h`, constants of `USBIPLib.h`)

A `Header` is the 48-byte packed `USBIP::HEADER`: five words common to all messages and a union of
28 bytes.  All four layouts of the union are words at the same offsets followed, for a SUBMIT, by
the eight setup bytes, so the union is its five words and its last eight bytes; `cmdSubmit`,
`retSubmit`, `cmdUnlinkSeqnum` and `retUnlinkStatus` are the four views of it.

`Header.bytes` is the memory of a header and `Header.ofBytes` reads it: `Header.ofBytes_append`.
-/

namespace VirtualUSB

open Endian

/-! ### Constants -/

def usbipCmdSubmit : UInt32 := 1
def usbipCmdUnlink : UInt32 := 2
def usbipRetSubmit : UInt32 := 3
def usbipRetUnlink : UInt32 := 4

theorem cmdUnlink_ne_cmdSubmit : usbipCmdUnlink ≠ usbipCmdSubmit := by decide

def usbipDirOut : UInt32 := 0
def usbipDirIn : UInt32 := 1

/-- `ECONNRESET` -/
def econnreset : Int32 := 104

/-! ### Headers -/

/-- `USBIP::HEADER_BASIC` -/
structure HeaderBasic where
  command : UInt32 := 0
  seqnum : UInt32 := 0
  devid : UInt32 := 0
  direction : UInt32 := 0
  ep : UInt32 := 0
  deriving DecidableEq, Repr

/-- The 28 bytes of the union in `USBIP::HEADER`: its first five words and its last eight bytes. -/
structure HeaderUnion where
  word0 : UInt32 := 0
  word1 : UInt32 := 0
  word2 : UInt32 := 0
  word3 : UInt32 := 0
  word4 : UInt32 := 0
  tail : Vector UInt8 8 := Vector.replicate 8 0
  deriving DecidableEq, Repr

/-- `USBIP::HEADER_CMD_SUBMIT` -/
structure HeaderCmdSubmit where
  transferFlags : UInt32
  transferBufferLength : Int32
  startFrame : Int32
  numberOfPackets : Int32
  interval : Int32
  setup : Vector UInt8 8
  deriving DecidableEq, Repr

/-- `USBIP::HEADER_RET_SUBMIT` -/
structure HeaderRetSubmit where
  status : Int32
  actualLength : Int32
  startFrame : Int32
  numberOfPackets : Int32
  errorCount : Int32
  deriving DecidableEq, Repr

/-- `USBIP::HEADER` -/
structure Header where
  base : HeaderBasic := {}
  union : HeaderUnion := {}
  deriving DecidableEq, Repr

namespace Header

/-- The union read as `cmd_submit`. -/
def cmdSubmit (h : Header) : HeaderCmdSubmit where
  transferFlags := h.union.word0
  transferBufferLength := h.union.word1.toInt32
  startFrame := h.union.word2.toInt32
  numberOfPackets := h.union.word3.toInt32
  interval := h.union.word4.toInt32
  setup := h.union.tail

/-- Assign all of `cmd_submit`. -/
def setCmdSubmit (h : Header) (c : HeaderCmdSubmit) : Header :=
  { h with
    union :=
      { word0 := c.transferFlags
        word1 := c.transferBufferLength.toUInt32
        word2 := c.startFrame.toUInt32
        word3 := c.numberOfPackets.toUInt32
        word4 := c.interval.toUInt32
        tail := c.setup } }

/-- The union read as `ret_submit`. -/
def retSubmit (h : Header) : HeaderRetSubmit where
  status := h.union.word0.toInt32
  actualLength := h.union.word1.toInt32
  startFrame := h.union.word2.toInt32
  numberOfPackets := h.union.word3.toInt32
  errorCount := h.union.word4.toInt32

/-- Assign all of `ret_submit`. -/
def setRetSubmit (h : Header) (r : HeaderRetSubmit) : Header :=
  { h with
    union :=
      { h.union with
        word0 := r.status.toUInt32
        word1 := r.actualLength.toUInt32
        word2 := r.startFrame.toUInt32
        word3 := r.numberOfPackets.toUInt32
        word4 := r.errorCount.toUInt32 } }

/-- `cmd_unlink.seqnum` -/
def cmdUnlinkSeqnum (h : Header) : UInt32 := h.union.word0

/-- Assign `cmd_unlink.seqnum`. -/
def setCmdUnlinkSeqnum (h : Header) (seqnum : UInt32) : Header :=
  { h with union := { h.union with word0 := seqnum } }

/-- `ret_unlink.status` -/
def retUnlinkStatus (h : Header) : Int32 := h.union.word0.toInt32

/-- Assign `ret_unlink.status`. -/
def setRetUnlinkStatus (h : Header) (status : Int32) : Header :=
  { h with union := { h.union with word0 := status.toUInt32 } }

@[simp] theorem cmdSubmit_setCmdSubmit (h : Header) (c : HeaderCmdSubmit) :
    (h.setCmdSubmit c).cmdSubmit = c := by
  simp [setCmdSubmit, cmdSubmit]

@[simp] theorem base_setCmdSubmit (h : Header) (c : HeaderCmdSubmit) :
    (h.setCmdSubmit c).base = h.base := rfl

@[simp] theorem retSubmit_setRetSubmit (h : Header) (r : HeaderRetSubmit) :
    (h.setRetSubmit r).retSubmit = r := by
  simp [setRetSubmit, retSubmit]

@[simp] theorem base_setRetSubmit (h : Header) (r : HeaderRetSubmit) :
    (h.setRetSubmit r).base = h.base := rfl

@[simp] theorem base_setCmdUnlinkSeqnum (h : Header) (n : UInt32) :
    (h.setCmdUnlinkSeqnum n).base = h.base := rfl

@[simp] theorem cmdUnlinkSeqnum_setCmdUnlinkSeqnum (h : Header) (n : UInt32) :
    (h.setCmdUnlinkSeqnum n).cmdUnlinkSeqnum = n := rfl

@[simp] theorem retUnlinkStatus_setRetUnlinkStatus (h : Header) (status : Int32) :
    (h.setRetUnlinkStatus status).retUnlinkStatus = status := by
  simp [setRetUnlinkStatus, retUnlinkStatus]

@[simp] theorem base_setRetUnlinkStatus (h : Header) (status : Int32) :
    (h.setRetUnlinkStatus status).base = h.base := rfl

end Header

/-! ### Headers in memory -/

/-- `sizeof(USBIP::HEADER)` -/
def headerSize : ℕ := 48

theorem headerSize_pos : 0 < headerSize := by decide

/-- The 32-bit word at offset `k` of a piece of memory. -/
def wordAt (bs : List UInt8) (k : ℕ) : UInt32 :=
  leWord (bs.getD k 0) (bs.getD (k + 1) 0) (bs.getD (k + 2) 0) (bs.getD (k + 3) 0)

namespace Header

/-- The memory of a header. -/
def bytes (h : Header) : List UInt8 :=
  leBytes h.base.command ++ leBytes h.base.seqnum ++ leBytes h.base.devid ++
    leBytes h.base.direction ++ leBytes h.base.ep ++ leBytes h.union.word0 ++
    leBytes h.union.word1 ++ leBytes h.union.word2 ++ leBytes h.union.word3 ++
    leBytes h.union.word4 ++ h.union.tail.toList

/-- The header in a piece of memory. -/
def ofBytes (bs : List UInt8) : Header where
  base :=
    { command := wordAt bs 0
      seqnum := wordAt bs 4
      devid := wordAt bs 8
      direction := wordAt bs 12
      ep := wordAt bs 16 }
  union :=
    { word0 := wordAt bs 20
      word1 := wordAt bs 24
      word2 := wordAt bs 28
      word3 := wordAt bs 32
      word4 := wordAt bs 36
      tail := Vector.ofFn fun i => bs.getD (40 + i) 0 }

@[simp] theorem length_bytes (h : Header) : h.bytes.length = headerSize := by
  simp [bytes, headerSize]

end Header

/-- Eight bytes are read back from behind forty others. -/
theorem ofFn_getD_append (ws : List UInt8) (hws : ws.length = 40) (t : Vector UInt8 8)
    (p : List UInt8) :
    (Vector.ofFn fun i : Fin 8 => (ws ++ (t.toList ++ p)).getD (40 + i) 0) = t := by
  apply Vector.ext
  intro i hi
  rw [Vector.getElem_ofFn, List.getD_eq_getElem?_getD, ← hws,
    List.getElem?_append_right (Nat.le_add_right _ _), Nat.add_sub_cancel_left,
    List.getElem?_append_left (by simpa using hi)]
  simp [hi]

/-- **A header is read back from its memory**, whatever follows it. -/
theorem Header.ofBytes_append (h : Header) (p : List UInt8) :
    Header.ofBytes (h.bytes ++ p) = h := by
  obtain ⟨⟨a, b, c, d, e⟩, ⟨w₀, w₁, w₂, w₃, w₄, t⟩⟩ := h
  have htail := ofFn_getD_append (leBytes a ++ leBytes b ++ leBytes c ++ leBytes d ++ leBytes e ++
    leBytes w₀ ++ leBytes w₁ ++ leBytes w₂ ++ leBytes w₃ ++ leBytes w₄) (by simp) t p
  rw [← List.append_assoc] at htail
  rw [ofBytes, bytes, htail]
  simp only [wordAt, leBytes, List.cons_append, List.nil_append, List.getD_cons_succ,
    List.getD_cons_zero, leWord_leBytes, Nat.zero_add, Nat.reduceAdd]

/-- The header is the first `headerSize` bytes of a message. -/
theorem Header.take_bytes_append (h : Header) (p : List UInt8) :
    (h.bytes ++ p).take headerSize = h.bytes := by
  rw [← h.length_bytes, List.take_left]

end VirtualUSB

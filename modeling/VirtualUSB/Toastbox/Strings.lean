import VirtualUSB.Host.Messages

/-!
# String descriptors (`USB.h`) and reading them (`USBDevice.cpp`)

A device keeps its texts as string descriptors: two bytes and one 16-bit word for each character.
`USBDevice::stringDescriptor` asks for one with room for the longest, and `asciiString` takes the
text out of it.  A `char` is an `Int8`.
-/

namespace VirtualUSB

open Endian

/-! ### The descriptor -/

/-- `StringDescriptorN` -/
structure StringDescriptorN (N : ℕ) where
  bLength : UInt8
  bDescriptorType : UInt8
  str : Vector UInt16 N
  /-- The `static_assert`: the length of the descriptor fits into a byte. -/
  le : N ≤ 126

/-- The two bytes of a 16-bit word in memory. -/
def leBytes16 (w : UInt16) : List UInt8 :=
  [w.toUInt8, (w >>> 8).toUInt8]

/-- The character that a word ends with. -/
def charOf (w : UInt16) : Int8 :=
  (hflU16 w).toUInt8.toInt8

/-- The word for a character: a negative character is extended by ones. -/
def wordOf (c : Int8) : UInt16 :=
  lfhU16 c.toInt16.toUInt16

namespace StringDescriptorN

variable {N : ℕ}

/-- `sizeof` -/
def size (N : ℕ) : ℕ :=
  2 + 2 * N

/-- `StringDescriptorN(s)`, which `StringDescriptorMake` calls without the terminator. -/
def ofChars (s : Vector Int8 N) (le : N ≤ 126) : StringDescriptorN N where
  bLength := (size N).toUInt8
  bDescriptorType := DescriptorType.string
  str := s.map wordOf
  le := le

/-- The memory of a descriptor. -/
def bytes (d : StringDescriptorN N) : List UInt8 :=
  [d.bLength, d.bDescriptorType] ++ d.str.toList.flatMap leBytes16

/-- The descriptor in a piece of memory; `str` was zero before anything was copied there. -/
def ofBytes (bs : List UInt8) (le : N ≤ 126) : StringDescriptorN N where
  bLength := bs.getD 0 (size N).toUInt8
  bDescriptorType := bs.getD 1 DescriptorType.string
  str := Vector.ofFn fun i => leWord16 (bs.getD (2 + 2 * i.val) 0) (bs.getD (3 + 2 * i.val) 0)
  le := le

end StringDescriptorN

/-- `StringDescriptorMax` -/
abbrev StringDescriptorMax := StringDescriptorN 126

/-- `asciiString`: the text, or an exception.  A length of 0 becomes the largest `size_t`, for which
`reserve` has no room. -/
def StringDescriptorMax.asciiString (d : StringDescriptorMax) : Option (List Int8) :=
  if d.bLength = 0 then none
  else some ((d.str.toList.take ((d.bLength.toNat - 2) / 2)).map charOf)

/-! ### Reading a descriptor -/

/-- The setup bytes of `libusb_get_descriptor(handle, descType, descIdx, data, len)`. -/
def getDescriptorSetup (descType descIdx : UInt8) (len : UInt16) : Vector UInt8 8 :=
  #v[0x80, Request.getDescriptor, descIdx, descType] ++
    #v[0, 0, len.toUInt8, (len >>> 8).toUInt8]

/-- The message is a request for a descriptor. -/
def HostMsg.AsksFor (m : HostMsg) (descType descIdx : UInt8) (len : UInt16) : Prop :=
  ∃ seqnum devid cmd payload, m = .submit seqnum devid usbipDirIn 0 cmd payload ∧
    cmd.setup = getDescriptorSetup descType descIdx len

/-- `stringDescriptor`: libusb returns `ir` and has copied `data`. -/
def stringDescriptor (ir : Int32) (data : List UInt8) : Option StringDescriptorMax :=
  if ir < 0 then none
  else some { StringDescriptorN.ofBytes (N := 126) data (by decide) with
    bLength := ir.toInt.toNat.toUInt8 }

end VirtualUSB

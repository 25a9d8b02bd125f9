import VirtualUSB.Endian

/-!
# USB constants, requests and descriptors (`LIB/Toastbox/USB.h`)

A pointer to a descriptor is modelled by what can be read through it: `Ptr` gives the byte at
every offset from the address, so reading past the end of a descriptor reads whatever lies behind
it in memory, as it does in the source.
-/

namespace VirtualUSB

open Endian

/-! ### Constants -/

namespace DescriptorType

def device : UInt8 := 1
def configuration : UInt8 := 2
def string : UInt8 := 3
def deviceQualifier : UInt8 := 6

end DescriptorType

namespace Request

def getStatus : UInt8 := 0
def getDescriptor : UInt8 := 6
def setConfiguration : UInt8 := 9

end Request

namespace RequestType

def directionOut : UInt8 := 0x00
def directionIn : UInt8 := 0x80
def directionMask : UInt8 := 0x80

def typeStandard : UInt8 := 0x00
def typeClass : UInt8 := 0x20
def typeMask : UInt8 := 0x60

def recipientDevice : UInt8 := 0x00
def recipientInterface : UInt8 := 0x01
def recipientMask : UInt8 := 0x1F

end RequestType

namespace Endpoint

/-- `MaxCount`: the number of endpoint deques. -/
abbrev maxCount : ℕ := 32

def defaultIn : UInt8 := 0x80

def directionIn : UInt8 := 0x80
def directionMask : UInt8 := 0x80

def indexMask : UInt8 := 0x0F

end Endpoint

namespace ConfigurationCharacteristics

def selfPowered : UInt8 := (1 : UInt8) <<< 6

end ConfigurationCharacteristics

/-! ### Setup requests -/

/-- `USB::SetupRequest` -/
structure SetupRequest where
  bmRequestType : UInt8 := 0
  bRequest : UInt8 := 0
  wValue : UInt16 := 0
  wIndex : UInt16 := 0
  wLength : UInt16 := 0
  deriving DecidableEq, Repr

/-! ### Descriptors -/

/-- What can be read through a pointer: the byte at every offset. -/
abbrev Ptr := ℕ → UInt8

/-- The first `n` bytes at a pointer, as `memcpy` copies them. -/
def Ptr.read (p : Ptr) (n : ℕ) : List UInt8 :=
  (List.range n).map p

@[simp] theorem Ptr.length_read (p : Ptr) (n : ℕ) : (p.read n).length = n := by
  simp [Ptr.read]

/-- `DeviceDescriptor::bcdUSB` lies at offset 2. -/
def bcdUSB (d : Ptr) : UInt16 :=
  leWord16 (d 2) (d 3)

/-- `DeviceDescriptor::bcdDevice` lies at offset 12. -/
def bcdDevice (d : Ptr) : UInt16 :=
  leWord16 (d 12) (d 13)

/-- `DeviceDescriptor::bLength` lies at offset 0. -/
def descLenDevice (d : Ptr) : ℕ :=
  (d 0).toNat

/-- `ConfigurationDescriptor::wTotalLength` lies at offset 2. -/
def descLenConfiguration (d : Ptr) : ℕ :=
  (hflU16 (leWord16 (d 2) (d 3))).toNat

/-- `DeviceQualifierDescriptor::bLength` lies at offset 0. -/
def descLenDeviceQualifier (d : Ptr) : ℕ :=
  (d 0).toNat

/-- `StringDescriptor::bLength` lies at offset 0. -/
def descLenString (d : Ptr) : ℕ :=
  (d 0).toNat

/-- `ConfigurationDescriptor::bConfigurationValue` lies at offset 5. -/
def configVal (d : Ptr) : UInt8 :=
  d 5

/-- `ConfigurationDescriptor::bmAttributes` lies at offset 7. -/
def selfPowered (d : Ptr) : Bool :=
  (d 7 &&& ConfigurationCharacteristics.selfPowered) != 0

/-- `VirtualUSBDevice::Info`.  The tables are pointers too: an entry past the count is whatever
lies behind the table. -/
structure Info where
  deviceDesc : Ptr
  deviceQualifierDesc : Option Ptr := none
  configDescs : ℕ → Ptr
  configDescsCount : ℕ := 0
  stringDescs : Option (ℕ → Ptr) := none
  stringDescsCount : ℕ := 0
  throwOnErr : Bool := false

/-- `const USB::ConfigurationDescriptor*`: a pointer to an entry of `configDescs`. -/
structure ConfigDescPtr where
  index : ℕ
  desc : Ptr

/-- `_info.configDescs[i]` -/
def Info.configDescPtr (info : Info) (i : ℕ) : ConfigDescPtr where
  index := i
  desc := info.configDescs i

end VirtualUSB

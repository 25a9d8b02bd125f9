import Mathlib.Logic.Function.Basic
import VirtualUSB.Base.LabelledSystem
import VirtualUSB.Base.Triple
import VirtualUSB.Toastbox.Strings

/-!
# Talking to USB devices with libusb (`USBDevice.cpp`)

The interfaces, the endpoints and the handle are variables of the file, which all `USBDevice`s share
(`UsbState`).  A constructor adds to the tables what libusb knows of its device.  A transfer first
opens the device and claims an interface if that was not done before.

What libusb answers is an argument (`Answers`), and `calls` are the calls of libusb so far.
`usbDevices errorName` is a program that constructs `USBDevice`s and uses them.
-/

namespace VirtualUSB.USBDevice

/-! ### What libusb says about a device -/

/-- `libusb_endpoint_descriptor` -/
structure EndpointDescriptor where
  bEndpointAddress : UInt8
  wMaxPacketSize : UInt16
  deriving DecidableEq, Repr

/-- `libusb_interface_descriptor`: one altsetting of an interface. -/
structure InterfaceDescriptor where
  bInterfaceNumber : UInt8
  endpoint : List EndpointDescriptor
  deriving DecidableEq, Repr

/-- `libusb_config_descriptor`: the altsettings of each interface. -/
structure ConfigDescriptor where
  interface : List (List InterfaceDescriptor)
  /-- `bNumInterfaces` is a byte. -/
  count : interface.length < 256

/-- What libusb answers while one member function runs. -/
structure Answers where
  openResult : Int32 := 0
  handle : ℕ := 0
  claimResult : Int32 := 0
  result : Int32 := 0
  xferLen : Int32 := 0
  /-- The bytes that `libusb_get_descriptor` copied. -/
  data : List UInt8 := []

/-- A call of libusb. -/
inductive UsbCall
  | openDevice (dev : ℕ) (result : Int32) (handle : ℕ)
  | claimInterface (handle : ℕ) (number : UInt8) (result : Int32)
  | bulkTransfer (handle : ℕ) (epAddr : UInt8) (len : Int32) (timeout : UInt32)
  | clearHalt (handle : ℕ) (epAddr : UInt8)
  | controlTransfer (handle : ℕ) (bmRequestType bRequest : UInt8) (len : UInt16) (timeout : UInt32)
  | getDescriptor (handle : ℕ) (descType descIdx : UInt8) (len : Int32)
  deriving DecidableEq, Repr

/-! ### The variables of the file -/

/-- `_Interface` -/
structure Interface where
  bInterfaceNumber : UInt8 := 0
  claimed : Bool := false
  deriving DecidableEq, Repr

/-- `_EndpointInfo` -/
structure EndpointInfo where
  valid : Bool := false
  epAddr : UInt8 := 0
  ifaceIdx : UInt8 := 0
  maxPacketSize : UInt16 := 0
  deriving DecidableEq, Repr

/-- `_interfaces`, `_epInfos` and `_handle` -/
structure UsbState where
  interfaces : List Interface := []
  epInfos : EpIdx → EndpointInfo := fun _ => {}
  handle : Option ℕ := none
  /-- History variable: every call of libusb so far. -/
  calls : List UsbCall := []

inductive UsbErr
  | runtime (msg : String)
  /-- `std::out_of_range`, which `_interfaces.at` throws. -/
  | outOfRange
  /-- `std::length_error`, which `reserve` throws. -/
  | length
  deriving DecidableEq, Repr

/-- A member function. -/
abbrev UsbProg := Prog UsbState UsbErr

/-! ### Endpoints -/

/-- `OffsetForEndpointAddr` -/
def offsetForEndpointAddr (epAddr : UInt8) : UInt8 :=
  ((epAddr &&& Endpoint.directionMask) >>> 3) ||| (epAddr &&& Endpoint.indexMask)

theorem offsetForEndpointAddr_lt (epAddr : UInt8) :
    (offsetForEndpointAddr epAddr).toNat < Endpoint.maxCount := by
  have hall : ∀ n : Fin 256, (offsetForEndpointAddr (.ofFin n)).toNat < Endpoint.maxCount := by
    decide +kernel
  exact hall epAddr.toFin

/-- The index of an address in `_epInfos`. -/
def epOffset (epAddr : UInt8) : EpIdx :=
  ⟨(offsetForEndpointAddr epAddr).toNat, offsetForEndpointAddr_lt epAddr⟩

/-- A byte as `%02x` prints it. -/
def hex02 (x : UInt8) : String :=
  String.ofList [Nat.digitChar (x.toNat / 16), Nat.digitChar (x.toNat % 16)]

/-- `_epInfo` -/
def epInfo (epAddr : UInt8) : UsbProg EndpointInfo := do
  let g ← .read
  let info := g.epInfos (epOffset epAddr)
  if !info.valid then .throw (.runtime ("invalid endpoint address: 0x" ++ hex02 epAddr))
  else pure info

/-! ### The constructor -/

/-- An endpoint is entered into `_epInfos`. -/
def addEndpoint (ifaceIdx : UInt8) (epInfos : EpIdx → EndpointInfo) (ep : EndpointDescriptor) :
    EpIdx → EndpointInfo :=
  Function.update epInfos (epOffset ep.bEndpointAddress)
    { valid := true
      epAddr := ep.bEndpointAddress
      ifaceIdx := ifaceIdx
      maxPacketSize := ep.wMaxPacketSize }

/-- The endpoints of an altsetting. -/
def addEndpoints (ifaceIdx : UInt8) (epInfos : EpIdx → EndpointInfo)
    (eps : List EndpointDescriptor) : EpIdx → EndpointInfo :=
  eps.foldl (addEndpoint ifaceIdx) epInfos

/-- The loop of the constructor; it looks at the first altsetting only. -/
def addInterfaces (ifaceIdx : ℕ) : List (List InterfaceDescriptor) → UsbProg Unit
  | [] => pure ()
  | [] :: _ => .throw (.runtime "interface has no altsettings")
  | (alt :: _) :: rest => do
    .update fun g =>
      { g with
        interfaces := g.interfaces ++ [{ bInterfaceNumber := alt.bInterfaceNumber }]
        epInfos := addEndpoints ifaceIdx.toUInt8 g.epInfos alt.endpoint }
    addInterfaces (ifaceIdx + 1) rest

section Calls

-- `libusb_error_name`
variable (errorName : Int32 → String)

/-- `check_err` -/
def checkErr (ir : Int32) (errMsg : String) : UsbProg Unit :=
  if ir < 0 then .throw (.runtime (errMsg ++ ": " ++ errorName ir)) else pure ()

/-- `USBDevice(dev)`: libusb answers with a configuration or an error. -/
def construct (config : Except Int32 ConfigDescriptor) : UsbProg Unit :=
  match config with
  | .error ir => .throw (.runtime ("libusb_get_config_descriptor failed: " ++ errorName ir))
  | .ok configDesc => addInterfaces 0 configDesc.interface

/-! ### Opening and claiming -/

/-- A call of libusb is on record. -/
def record (c : UsbCall) : UsbProg Unit :=
  .update fun g => { g with calls := g.calls ++ [c] }

/-- `_openIfNeeded` -/
def openIfNeeded (dev : ℕ) (lib : Answers) : UsbProg Unit := do
  let g ← .read
  if g.handle.isSome then pure ()
  else do
    record (.openDevice dev lib.openResult lib.handle)
    checkErr errorName lib.openResult "libusb_open failed"
    .update fun g => { g with handle := some lib.handle }

/-- `_handle` as an argument of libusb; it has a value after `_openIfNeeded`. -/
def theHandle : UsbProg ℕ := do
  let g ← .read
  pure (g.handle.getD 0)

/-- `_claimInterfaceForEndpointAddr` -/
def claimInterfaceForEndpointAddr (dev : ℕ) (epAddr : UInt8) (lib : Answers) : UsbProg Unit := do
  openIfNeeded errorName dev lib
  let info ← epInfo epAddr
  let g ← .read
  match g.interfaces[info.ifaceIdx.toNat]? with
  | none => .throw .outOfRange
  | some iface =>
    if iface.claimed then pure ()
    else do
      let handle ← theHandle
      record (.claimInterface handle iface.bInterfaceNumber lib.claimResult)
      checkErr errorName lib.claimResult "libusb_claim_interface failed"
      .update fun g =>
        { g with
          interfaces := g.interfaces.set info.ifaceIdx.toNat { iface with claimed := true } }

/-! ### Transfers -/

/-- `USB::RequestType::TypeVendor` -/
def typeVendor : UInt8 := 0x40

/-- `_LibUSBTimeoutFromMs`: `Forever` is the largest number of milliseconds. -/
def libUSBTimeoutFromMs (timeout : Int64) : UInt32 :=
  if timeout = Int64.maxValue then 0
  else if timeout = 0 then 1
  else timeout.toUInt64.toUInt32

/-- `read(epAddr, buf, len, timeout)`: the number of bytes read. -/
def read (dev : ℕ) (epAddr : UInt8) (len : UInt64) (timeout : Int64) (lib : Answers) :
    UsbProg ℕ := do
  claimInterfaceForEndpointAddr errorName dev epAddr lib
  let handle ← theHandle
  record (.bulkTransfer handle epAddr len.toUInt32.toInt32 (libUSBTimeoutFromMs timeout))
  checkErr errorName lib.result "libusb_bulk_transfer failed"
  pure (sizeOfInt32 lib.xferLen)

/-- `read(epAddr, t, timeout)`, where `t` is an object of `size` bytes. -/
def readObject (dev : ℕ) (epAddr : UInt8) (size : UInt64) (timeout : Int64) (lib : Answers) :
    UsbProg ℕ := do
  let len ← read errorName dev epAddr size timeout lib
  if len ≠ size.toNat then
    .throw (.runtime ("read() didn't read enough data (needed " ++ toString size ++
      " bytes, got " ++ toString len ++ " bytes)"))
  else pure len

/-- `write(epAddr, buf, len, timeout)` -/
def write (dev : ℕ) (epAddr : UInt8) (len : UInt64) (timeout : Int64) (lib : Answers) :
    UsbProg ℕ := do
  claimInterfaceForEndpointAddr errorName dev epAddr lib
  let handle ← theHandle
  record (.bulkTransfer handle epAddr len.toUInt32.toInt32 (libUSBTimeoutFromMs timeout))
  checkErr errorName lib.result "libusb_bulk_transfer failed"
  if sizeOfInt32 lib.xferLen ≠ len.toNat then
    .throw (.runtime ("libusb_bulk_transfer short write (tried: " ++ toString len ++ ", got: " ++
      toString (sizeOfInt32 lib.xferLen) ++ ")"))
  else pure len.toNat

/-- `reset(epAddr)` -/
def reset (dev : ℕ) (epAddr : UInt8) (lib : Answers) : UsbProg Unit := do
  claimInterfaceForEndpointAddr errorName dev epAddr lib
  let handle ← theHandle
  record (.clearHalt handle epAddr)
  checkErr errorName lib.result "libusb_clear_halt failed"

/-- `vendorRequestOut(req, data, len, timeout)`: libusb takes a 16-bit length. -/
def vendorRequestOut (dev : ℕ) (req : UInt8) (len : UInt64) (timeout : Int64) (lib : Answers) :
    UsbProg Unit := do
  openIfNeeded errorName dev lib
  let handle ← theHandle
  record (.controlTransfer handle
    (RequestType.directionOut ||| typeVendor ||| RequestType.recipientDevice) req len.toUInt16
    (libUSBTimeoutFromMs timeout))
  checkErr errorName lib.result "libusb_control_transfer failed"

/-- `stringDescriptor(idx).asciiString()`, as `manufacturer()`, `product()` and `serialNumber()`
have it. -/
def string (dev : ℕ) (idx : UInt8) (lib : Answers) : UsbProg (List Int8) := do
  openIfNeeded errorName dev lib
  let handle ← theHandle
  record (.getDescriptor handle DescriptorType.string idx 254)
  checkErr errorName lib.result "libusb_get_string_descriptor failed"
  match (stringDescriptor lib.result lib.data).bind StringDescriptorMax.asciiString with
  | none => .throw .length
  | some text => pure text

end Calls

/-! ### The tables -/

/-- `maxPacketSize(epAddr)` -/
def maxPacketSize (epAddr : UInt8) : UsbProg UInt16 := do
  let info ← epInfo epAddr
  pure info.maxPacketSize

/-- `endpoints()` -/
def endpoints : UsbProg (List UInt8) := do
  let g ← .read
  pure ((((List.finRange Endpoint.maxCount).map g.epInfos).filter (·.valid)).map (·.epAddr))

/-! ### Programs that use devices -/

/-- A call of a member function, with what libusb answers. -/
inductive UsbOp
  | construct (config : Except Int32 ConfigDescriptor)
  | read (dev : ℕ) (epAddr : UInt8) (len : UInt64) (timeout : Int64) (lib : Answers)
  | readObject (dev : ℕ) (epAddr : UInt8) (size : UInt64) (timeout : Int64) (lib : Answers)
  | write (dev : ℕ) (epAddr : UInt8) (len : UInt64) (timeout : Int64) (lib : Answers)
  | reset (dev : ℕ) (epAddr : UInt8) (lib : Answers)
  | vendorRequestOut (dev : ℕ) (req : UInt8) (len : UInt64) (timeout : Int64) (lib : Answers)
  | string (dev : ℕ) (idx : UInt8) (lib : Answers)
  | maxPacketSize (epAddr : UInt8)
  | endpoints

/-- What a member function returns. -/
inductive UsbValue
  | done
  | length (n : ℕ)
  | text (cs : List Int8)
  | packetSize (n : UInt16)
  | addresses (eps : List UInt8)
  deriving DecidableEq, Repr

/-- The member function that is called. -/
def UsbOp.prog (errorName : Int32 → String) : UsbOp → UsbProg UsbValue
  | .construct config => do
    USBDevice.construct errorName config
    pure .done
  | .read dev epAddr len timeout lib => do
    let n ← USBDevice.read errorName dev epAddr len timeout lib
    pure (.length n)
  | .readObject dev epAddr size timeout lib => do
    let n ← USBDevice.readObject errorName dev epAddr size timeout lib
    pure (.length n)
  | .write dev epAddr len timeout lib => do
    let n ← USBDevice.write errorName dev epAddr len timeout lib
    pure (.length n)
  | .reset dev epAddr lib => do
    USBDevice.reset errorName dev epAddr lib
    pure .done
  | .vendorRequestOut dev req len timeout lib => do
    USBDevice.vendorRequestOut errorName dev req len timeout lib
    pure .done
  | .string dev idx lib => do
    let cs ← USBDevice.string errorName dev idx lib
    pure (.text cs)
  | .maxPacketSize epAddr => do
    let n ← USBDevice.maxPacketSize epAddr
    pure (.packetSize n)
  | .endpoints => do
    let eps ← USBDevice.endpoints
    pure (.addresses eps)

/-- A program that constructs `USBDevice`s and uses them. -/
def usbDevices (errorName : Int32 → String) :
    LabelledSystem UsbState UsbOp (Except UsbErr UsbValue) where
  init := {}
  step g op := some (((op.prog errorName).run g).2, [((op.prog errorName).run g).1])

end VirtualUSB.USBDevice

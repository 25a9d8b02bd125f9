import VirtualUSB.Base.Scan
import VirtualUSB.Base.Ledger
import VirtualUSB.Threads.Client

/-!
# The vhci driver (`USBIPLib.cpp`, `USBIPLib.h`)

`usbipVhciDriverOpen` reads how many ports the kernel has and what is attached to them;
`usbipVhciGetFreePort` searches this list and `usbipVhciAttachDevice2` writes to the attribute that
attaches a device.

`Udev` is what the calls into libudev and the C library answer.  A step with undefined behaviour or
a call of `abort()` has no result (`none`).  Of what is read about a port the fields of `udev`,
which describe the imported device, are left out; no code reads them.
-/

namespace VirtualUSB

open Scan

/-! ### Conversions of an `int` -/

theorem toNat_uint8_ofInt (n : ℕ) : (UInt8.ofInt n).toNat = n % 2 ^ 8 := by
  rw [UInt8.ofInt, UInt8.toNat_ofNat']
  omega

/-! ### Data -/

/-- `enum hub_speed` -/
inductive HubSpeed
  | high
  | super
  deriving DecidableEq, Repr

namespace UsbipStatus

def vdevStNull : UInt32 := 4
def vdevStNotAssigned : UInt32 := 5

end UsbipStatus

/-- `usbip_imported_device`: what is known of a port. -/
structure ImportedDevice where
  hub : HubSpeed := .high
  port : UInt8 := 0
  status : UInt32 := 0
  devid : UInt32 := 0
  busnum : UInt8 := 0
  devnum : UInt8 := 0
  deriving DecidableEq, Repr

/-- `usbip_vhci_driver`; the array `idev` has `nports` elements. -/
structure Driver where
  hcDevice : ℕ
  ncontrollers : ℤ
  idev : List ImportedDevice
  deriving DecidableEq, Repr

def Driver.nports (d : Driver) : ℕ :=
  d.idev.length

/-- The variables `vhci_driver` and `udev_context`, and the udev objects obtained and released. -/
structure Lib where
  vhciDriver : Option Driver := none
  udevContext : Option ℕ := none
  ledger : Ledger := {}
  deriving DecidableEq, Repr

/-- The answers of libudev and of the C library. -/
structure Udev where
  /-- `udev_new` gives a context. -/
  udevNew : Bool
  /-- The device of the host controller is found. -/
  hcDevice : Bool
  /-- `udev_device_get_sysattr_value` of the host controller. -/
  sysattr : List Char → Option (List Char)
  /-- `calloc` succeeds. -/
  calloc : Bool
  /-- The host controller has a parent. -/
  parent : Bool
  /-- `scandir` in the directory of the parent. -/
  scandir : ℤ
  /-- The imported device is found, in each call that looks for one. -/
  usbDevice : ℕ → List Char → Bool

/-! ### Attributes of the host controller -/

/-- `strtoul(cs, NULL, 10)`, converted to `int`. -/
def strtoulInt (cs : List Char) : ℤ :=
  match readNumber 10 (skipSpace cs) with
  | none => 0
  | some (n, _) => (store false n).bmod (2 ^ 32)

/-- `get_nports` -/
def getNports (u : Udev) : ℤ :=
  match u.sysattr ['n', 'p', 'o', 'r', 't', 's'] with
  | none => -1
  | some value => strtoulInt value

/-- `get_ncontrollers` -/
def getNcontrollers (u : Udev) : ℤ :=
  if u.parent then u.scandir else -1

/-- The name of the status attribute of a controller: `status`, `status.1`, `status.2`, .... -/
def statusName (i : ℕ) : List Char :=
  ['s', 't', 'a', 't', 'u', 's'] ++ if 0 < i then '.' :: Nat.toDigits 10 i else []

/-! ### The status of the ports -/

/-- What `parse_status` changes: the array `idev` of the driver and the udev objects; `lookups`
counts the devices that were looked up. -/
structure Listing where
  idev : List ImportedDevice
  ledger : Ledger
  lookups : ℕ := 0
  deriving DecidableEq, Repr

/-- `imported_device_init`; the flag says whether the device was found. -/
def importedDeviceInit (u : Udev) (busid : List Char) (st : Listing) : Bool × Listing :=
  if u.usbDevice st.lookups busid then
    let (sudev, ledger) := st.ledger.acquire
    (true, { st with ledger := ledger.release sudev, lookups := st.lookups + 1 })
  else (false, { st with lookups := st.lookups + 1 })

/-- `"%2s  %d %d %d %x %u %31s\n"` -/
def statusFormat : List Directive :=
  [.conv (.str 2), .space, .conv (.num 10 true), .space, .conv (.num 10 true), .space,
    .conv (.num 10 true), .space, .conv (.num 16 false), .space, .conv (.num 10 false), .space,
    .conv (.str 31), .space]

/-- The entry that a row of the status describes. -/
def importedDevice (hub : List Char) (port status devid : ℤ) : ImportedDevice where
  hub := if hub = ['h', 's'] then .high else .super
  port := UInt8.ofInt port
  status := UInt32.ofInt status
  devid := UInt32.ofInt devid
  busnum := UInt8.ofInt (devid / 2 ^ 16)
  devnum := UInt8.ofInt (devid % 2 ^ 16)

/-- One turn of the loop of `parse_status`: the row that begins here.  With less than five fields
the program is aborted; a port outside of the array is undefined behaviour. -/
def parseRow (u : Udev) (c : List Char) (st : Listing) : Option (Bool × Listing) :=
  match sscanf statusFormat c with
  | .str hub :: .num port :: .num status :: .num _ :: .num devid :: rest =>
    let lbusid := match rest with
      | [_, .str busid] => busid
      | _ => []
    if 0 ≤ port ∧ port < st.idev.length then
      let idev := importedDevice hub port status devid
      let st := { st with idev := st.idev.set port.toNat idev }
      if idev.status ≠ UsbipStatus.vdevStNull ∧ idev.status ≠ UsbipStatus.vdevStNotAssigned then
        some (importedDeviceInit u lbusid st)
      else some (true, st)
    else none
  | _ => none

/-- What follows the next newline: `strchr(c, '\n')` and `c++`. -/
def nextLine : List Char → Option (List Char)
  | [] => none
  | c :: cs => if c = '\n' then some cs else nextLine cs

/-- The loop of `parse_status`.  Every turn moves on by one character at least, so as many turns as
there are characters are enough (`parseRows_of_le`). -/
def parseRows (u : Udev) : ℕ → List Char → Listing → Option (Bool × Listing)
  | 0, _, st => some (true, st)
  | _ + 1, [], st => some (true, st)
  | fuel + 1, c, st =>
    match parseRow u c st with
    | none => none
    | some (false, st) => some (false, st)
    | some (true, st) =>
      match nextLine c with
      | none => some (true, st)
      | some c => parseRows u fuel c st

/-- `parse_status`; the flag says whether it returned 0.  The first line is the header. -/
def parseStatus (u : Udev) (value : List Char) (st : Listing) : Option (Bool × Listing) :=
  match nextLine value with
  | none => some (false, st)
  | some c => parseRows u c.length c st

/-- `refresh_imported_device_list`, for the next `n` controllers from the `i`-th on. -/
def refreshImportedDeviceList (u : Udev) : ℕ → ℕ → Listing → Option (Bool × Listing)
  | 0, _, st => some (true, st)
  | n + 1, i, st =>
    match u.sysattr (statusName i) with
    | none => some (false, st)
    | some value =>
      match parseStatus u value st with
      | none => none
      | some (false, st) => some (false, st)
      | some (true, st) => refreshImportedDeviceList u n (i + 1) st

/-! ### Opening and closing the driver -/

/-- The label `err` of `usbip_vhci_driver_open`. -/
def Lib.openFailed (lib : Lib) (hcDevice : Option ℕ) : Lib :=
  { lib with
    vhciDriver := none
    ledger := (lib.ledger.unref hcDevice).unref lib.udevContext }

/-- `usbip_vhci_driver_open`; the flag says whether it returned 0. -/
def usbipVhciDriverOpen (u : Udev) (lib : Lib) : Option (Bool × Lib) :=
  if !u.udevNew then some (false, { lib with udevContext := none })
  else
    let (context, ledger) := lib.ledger.acquire
    let lib := { lib with udevContext := some context, ledger := ledger }
    if !u.hcDevice then some (false, lib.openFailed none)
    else
      let (hcDevice, ledger) := lib.ledger.acquire
      let lib := { lib with ledger := ledger }
      let nports := getNports u
      if nports ≤ 0 then some (false, lib.openFailed (some hcDevice))
      else if !u.calloc then some (false, lib.openFailed (some hcDevice))
      else
        let ncontrollers := getNcontrollers u
        if ncontrollers ≤ 0 then some (false, lib.openFailed (some hcDevice))
        else
          let idev := List.replicate nports.toNat ({} : ImportedDevice)
          match refreshImportedDeviceList u ncontrollers.toNat 0 { idev, ledger := lib.ledger } with
          | none => none
          | some (false, st) =>
            some (false, ({ lib with ledger := st.ledger } : Lib).openFailed (some hcDevice))
          | some (true, st) =>
            some (true,
              { lib with
                vhciDriver := some { hcDevice, ncontrollers, idev := st.idev }
                ledger := st.ledger })

/-- `usbip_vhci_driver_close` -/
def usbipVhciDriverClose (lib : Lib) : Lib :=
  match lib.vhciDriver with
  | none => lib
  | some d =>
    { lib with
      vhciDriver := none
      ledger := (lib.ledger.release d.hcDevice).unref lib.udevContext }

/-! ### Attaching a device -/

/-- The hub on which `usbip_vhci_get_free_port` looks for a port. -/
def hubOfSpeed (speed : UInt32) : HubSpeed :=
  if speed = Speed.super then .super else .high

/-- The entry with which the search of `usbip_vhci_get_free_port` ends. -/
def Driver.freeEntry (d : Driver) (speed : UInt32) : Option ImportedDevice :=
  d.idev.find? fun idev =>
    idev.hub = hubOfSpeed speed ∧ idev.status = UsbipStatus.vdevStNull

/-- `usbip_vhci_get_free_port` -/
def usbipVhciGetFreePort (d : Driver) (speed : UInt32) : ℤ :=
  match d.freeEntry speed with
  | none => -1
  | some idev => idev.port.toNat

/-- The arguments of `usbip_vhci_attach_device2`. -/
structure Attach where
  port : UInt8
  sockfd : ℤ
  devid : UInt32
  speed : UInt32
  deriving DecidableEq, Repr

/-- `%d` -/
def printInt (n : ℤ) : List Char :=
  if n < 0 then '-' :: Nat.toDigits 10 n.natAbs else Nat.toDigits 10 n.natAbs

/-- What is written to the attribute: `"%u %d %u %u"`. -/
def Attach.buff (a : Attach) : List Char :=
  Nat.toDigits 10 a.port.toNat ++ ' ' :: printInt a.sockfd ++ ' ' :: Nat.toDigits 10 a.devid.toNat
    ++ ' ' :: Nat.toDigits 10 a.speed.toNat

/-- How `usbip_vhci_attach_device2` ends: it returns 0, or -1 with an `errno`. -/
inductive AttachAnswer
  | attached
  | failed (errno : ℕ)
  deriving DecidableEq, Repr

/-- `EBUSY` -/
def ebusy : ℕ := 16

end VirtualUSB

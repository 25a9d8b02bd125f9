import VirtualUSB.Threads.System

/-!
# The application (`main.cpp`, `Descriptor.h`)

A serial device of the CDC class.  The main thread reads `Xfer`s from the device and handles them;
a second thread sends a text while the host says that a terminal is present.  `application info` is
the whole program: the device with the two threads of the application as its only clients.
-/

namespace VirtualUSB

open Endian

/-! ### Constants -/

namespace CDC.Request

def setLineCoding : UInt8 := 0x20
def getLineCoding : UInt8 := 0x21
def setControlLineState : UInt8 := 0x22
def sendBreak : UInt8 := 0x23

end CDC.Request

namespace Endpoint

def out2 : UInt8 := 0x02
def in2 : UInt8 := 0x82

end Endpoint

/-! ### The descriptors -/

/-- A pointer to some bytes; what lies behind them reads as zero. -/
def ptrOf (bs : List UInt8) : Ptr :=
  fun k => bs.getD k 0

namespace Descriptor

def device : List UInt8 :=
  [18, 0x01, 0x00, 0x02, 0x02, 0x00, 0x00, 0x10, 0x34, 0x12, 0x78, 0x56, 0x00, 0x01, 0x01, 0x02,
    0x00, 0x01]

def deviceQualifier : List UInt8 :=
  [10, 0x06, 0x00, 0x02, 0x02, 0x00, 0x00, 0x10, 0x01, 0x00]

/-- The configuration with its two interfaces. -/
def configuration : List UInt8 :=
  [9, 0x02, 67, 0x00, 0x02, 0x01, 0x00, 0xC0, 0x32] ++
    [9, 0x04, 0x00, 0x00, 0x01, 0x02, 0x02, 0x01, 0x00] ++
      [0x05, 0x24, 0x00, 0x10, 0x01] ++ [0x05, 0x24, 0x01, 0x01, 0x01] ++
      [0x04, 0x24, 0x02, 0x02] ++ [0x05, 0x24, 0x06, 0x00, 0x01] ++
      [7, 0x05, 0x81, 0x03, 0x08, 0x00, 0x0A] ++
    [9, 0x04, 0x01, 0x00, 0x02, 0x0A, 0x00, 0x00, 0x03] ++
      [7, 0x05, 0x02, 0x02, 0x20, 0x00, 0x00] ++ [7, 0x05, 0x82, 0x02, 0x20, 0x00, 0x00]

/-- `StringDescriptorMake` of an ASCII string: every character is a 16-bit word. -/
def stringDescriptorMake (s : String) : List UInt8 :=
  [(2 + 2 * s.length).toUInt8, DescriptorType.string] ++
    s.toList.flatMap fun c => [c.toNat.toUInt8, 0]

def strings : List (List UInt8) :=
  [[4, DescriptorType.string, 0x09, 0x04], stringDescriptorMake "ManufacturerString",
    stringDescriptorMake "ProductString", stringDescriptorMake "InterfaceString"]

end Descriptor

/-- `deviceInfo` -/
def deviceInfo : Info where
  deviceDesc := ptrOf Descriptor.device
  deviceQualifierDesc := some (ptrOf Descriptor.deviceQualifier)
  configDescs := fun _ => ptrOf Descriptor.configuration
  configDescsCount := 1
  stringDescs := some fun i => ptrOf (Descriptor.strings.getD i [])
  stringDescsCount := 4
  throwOnErr := true

/-! ### Handling an `Xfer` -/

/-- `Toastbox::USB::CDC::LineCoding` -/
structure LineCoding where
  dwDTERate : UInt32 := 0
  bCharFormat : UInt8 := 0
  bParityType : UInt8 := 0
  bDataBits : UInt8 := 0
  deriving DecidableEq, Repr

namespace LineCoding

/-- `sizeof(_LineCoding)` -/
def size : ℕ := 7

/-- The memory of a line coding. -/
def bytes (l : LineCoding) : List UInt8 :=
  leBytes l.dwDTERate ++ [l.bCharFormat, l.bParityType, l.bDataBits]

/-- The line coding in a piece of memory. -/
def ofBytes (bs : List UInt8) : LineCoding where
  dwDTERate := hflU32 (wordAt bs 0)
  bCharFormat := bs.getD 4 0
  bParityType := bs.getD 5 0
  bDataBits := bs.getD 6 0

end LineCoding

/-- `_LineCoding` and `_State` -/
structure Shared where
  lineCoding : LineCoding := {}
  dtePresent : Bool := false
  deriving DecidableEq, Repr

/-- The hexadecimal digits that `%x` prints. -/
def hexDigits (x : UInt8) : String :=
  String.ofList (Nat.toDigits 16 x.toNat)

/-- What handling an `Xfer` ends with: the data afterwards and the call of `dev.write`, if there is
one. -/
abbrev XferResult := Except Err (Shared × Option (UInt8 × List UInt8))

/-- `_handleXferEP0` -/
def handleXferEP0 (a : Shared) (xfer : Xfer) : XferResult :=
  let req := xfer.setupReq
  if req.bmRequestType &&& RequestType.typeMask ≠ RequestType.typeClass then
    .error (.runtime "invalid request bmRequestType (TypeClass)")
  else if req.bmRequestType &&& RequestType.recipientMask ≠ RequestType.recipientInterface then
    .error (.runtime "invalid request bmRequestType (RecipientInterface)")
  else if req.bmRequestType &&& RequestType.directionMask = RequestType.directionOut then
    if req.bRequest = CDC.Request.setLineCoding then
      if xfer.len ≠ LineCoding.size then
        .error (.runtime
          "SET_LINE_CODING: payloadLen doesn't match sizeof(USB::CDC::LineCoding)")
      else .ok ({ a with lineCoding := LineCoding.ofBytes xfer.data }, none)
    else if req.bRequest = CDC.Request.setControlLineState then
      .ok ({ a with dtePresent := req.wValue &&& 1 != 0 }, none)
    else if req.bRequest = CDC.Request.sendBreak then .ok (a, none)
    else .error (.runtime ("invalid request (DirectionOut): " ++ hexDigits req.bRequest))
  else if req.bmRequestType &&& RequestType.directionMask = RequestType.directionIn then
    if req.bRequest = CDC.Request.getLineCoding then
      if xfer.len ≠ LineCoding.size then
        .error (.runtime
          "SET_LINE_CODING: payloadLen doesn't match sizeof(USB::CDC::LineCoding)")
      else .ok (a, some (Endpoint.defaultIn, a.lineCoding.bytes))
    else .error (.runtime ("invalid request (DirectionIn): " ++ hexDigits req.bRequest))
  else .error (.runtime "invalid request direction")

/-- `_handleXferEPX` -/
def handleXferEPX (a : Shared) (xfer : Xfer) : XferResult :=
  if xfer.ep = Endpoint.out2 then .ok (a, none)
  else
    .error (.runtime ("invalid endpoint: 0x" ++ (if xfer.ep < 16 then "0" else "") ++
      hexDigits xfer.ep))

/-- `_handleXfer` -/
def handleXfer (a : Shared) (xfer : Xfer) : XferResult :=
  if xfer.ep = 0 then handleXferEP0 a xfer else handleXferEPX a xfer

/-! ### The threads of the application -/

/-- The client that the main thread is for the device. -/
def mainThread : ℕ := 0

/-- The client that the thread in `_threadResponse` is for the device. -/
def responseThread : ℕ := 1

/-- Where the main thread is. -/
inductive MainPc
  /-- About to call `dev.start()`. -/
  | init
  /-- `dev.start()` has returned; about to create the thread in `_threadResponse`. -/
  | launching
  /-- At the beginning of its loop, about to call `dev.read()`. -/
  | loop
  /-- In a call of the device. -/
  | calling
  /-- About to handle an `Xfer`. -/
  | got (xfer : Xfer)
  /-- An exception was thrown and the process has ended. -/
  | exited
  deriving DecidableEq, Repr

/-- Where the thread in `_threadResponse` is. -/
inductive ResponsePc
  | notLaunched
  /-- The creation of the thread has failed. -/
  | notCreated
  /-- About to look at `dtePresent`, or asleep until it is set. -/
  | waiting
  /-- About to call `dev.write()`. -/
  | ready
  /-- In a call of the device. -/
  | calling
  deriving DecidableEq, Repr

/-- The state of the whole program. -/
structure App where
  sys : Sys := {}
  shared : Shared := {}
  main : MainPc := .init
  response : ResponsePc := .notLaunched

/-- The text that `_threadResponse` sends. -/
def responseText : List UInt8 :=
  "Testing 123\r\n".toList.map (fun c => c.toNat.toUInt8) ++ List.replicate (1024 - 13) 0

namespace App

/-- A call of the device has returned to the main thread.  A call of `read()` that waits without a
limit on a device that throws never returns `nullopt`. -/
def mainReturned (a : App) : CallResult → App
  | .done => { a with main := if a.response = .notLaunched then .launching else .loop }
  | .xfer x => { a with main := .got x }
  | _ => { a with main := .exited }

/-- A call of the device has returned to the thread in `_threadResponse`.  An exception that leaves
this thread ends the process. -/
def responseReturned (a : App) : CallResult → App
  | .done => { a with response := .waiting }
  | _ => { a with main := .exited }

/-- The threads of the application see what their calls returned. -/
def returned (a : App) : List SysEvent → App
  | [] => a
  | .returned t _ result :: evs =>
    if t = mainThread then (a.mainReturned result).returned evs
    else if t = responseThread then (a.responseReturned result).returned evs
    else a.returned evs
  | _ :: evs => a.returned evs

/-- The thread in `_threadResponse` is created, or its creation throws, which ends the process. -/
def launched (a : App) : Option ℕ → App
  | none => { a with main := .loop, response := .waiting }
  | some _ => { a with main := .exited, response := .notCreated }

/-- A step of the device, or of a call that is going on. -/
def sysStep (info : Info) (a : App) (act : Action) : Option (App × List SysEvent) :=
  match a.sys.step info act with
  | some (s, evs) => some (({ a with sys := s } : App).returned evs, evs)
  | none => none

end App

/-- The steps of the whole program. -/
inductive AppAction
  /-- A step of the device, or of a call that is going on. -/
  | sys (act : Action)
  /-- A step of the main thread between its calls. -/
  | main
  /-- The main thread creates the thread in `_threadResponse`, or fails to with an `errno`. -/
  | launch (failure : Option ℕ)
  /-- A step of the thread in `_threadResponse` between its calls. -/
  | response

/-- The effect of a step. -/
def App.step (info : Info) (a : App) : AppAction → Option (App × List SysEvent)
  | .sys (.call _ _) => none
  | .sys act => if a.main = .exited then none else a.sysStep info act
  | .main =>
    match a.main with
    | .init => ({ a with main := .calling } : App).sysStep info (.call mainThread .start)
    | .loop => ({ a with main := .calling } : App).sysStep info (.call mainThread (.read .max))
    | .got xfer =>
      match handleXfer a.shared xfer with
      | .ok (shared, none) => some ({ a with shared := shared, main := .loop }, [])
      | .ok (shared, some (ep, data)) =>
        ({ a with shared := shared, main := .calling } : App).sysStep info
          (.call mainThread (.write ep data))
      | .error _ => some ({ a with main := .exited }, [])
    | _ => none
  | .launch failure =>
    if a.main = .launching then some (a.launched failure, []) else none
  | .response =>
    if a.main = .exited then none
    else
      match a.response with
      | .waiting => if a.shared.dtePresent then some ({ a with response := .ready }, []) else none
      | .ready =>
        ({ a with response := .calling } : App).sysStep info
          (.call responseThread (.write Endpoint.in2 responseText))
      | _ => none

/-- The whole program with the given descriptors. -/
def application (info : Info) : LabelledSystem App AppAction SysEvent where
  init := {}
  step := App.step info

end VirtualUSB

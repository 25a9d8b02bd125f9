import VirtualUSB.Threads.State

/-!
# The calls of the clients (`VirtualUSBDevice.cpp`)

`start`, `read`, `write`, `stop`, `err` and the destructor.  A call holds the lock from its
beginning to its end, except while it waits: `read()` for a command, any call for the threads to
exit once it has entered `_reset`.  So a call is one step unless it waits.
-/

namespace VirtualUSB

open Endian

/-! ### Starting -/

namespace Speed

def full : UInt32 := 2
def high : UInt32 := 3
def super : UInt32 := 5
def superPlus : UInt32 := 6

end Speed

/-- `_SpeedFromBCDUSB` -/
def speedFromBCDUSB (bcdUSB : UInt16) : Except Err UInt32 :=
  let bcdUSB := hflU16 bcdUSB
  if bcdUSB = 0x0100 then .ok Speed.full
  else if bcdUSB = 0x0110 then .ok Speed.full
  else if bcdUSB = 0x0200 then .ok Speed.high
  else if bcdUSB = 0x0300 then .ok Speed.super
  else if bcdUSB = 0x0310 then .ok Speed.superPlus
  else if bcdUSB = 0x0320 then .ok Speed.superPlus
  else .error (.runtime ("invalid bcdUSB: " ++ String.ofList (Nat.toDigits 16 bcdUSB.toNat)))

/-- The functions of the vhci driver that `start()` calls. -/
inductive VhciCall
  | driverOpen
  | getFreePort
  | attachDevice2
  deriving DecidableEq, Repr

/-- The text of the exception when the call fails. -/
def VhciCall.message : VhciCall → String
  | .driverOpen => "usbip_vhci_driver_open failed"
  | .getFreePort => "usbip_vhci_get_free_port failed"
  | .attachDevice2 => "usbip_vhci_attach_device2 failed"

/-- How the system calls that `start()` makes end.  The loop that attaches the device is repeated
while the kernel answers `EBUSY`; the outcome is that of its last turn. -/
inductive StartOutcome
  /-- `socketpair` fails. -/
  | noSockets (errno : ℕ)
  /-- A function of the vhci driver fails; the two sockets are open. -/
  | noVhci (call : VhciCall) (errno : ℕ) (socket usbipSocket : ℕ)
  /-- The reader thread cannot be created. -/
  | noReadThread (errno : ℕ) (socket usbipSocket : ℕ)
  /-- The writer thread cannot be created. -/
  | noWriteThread (errno : ℕ) (socket usbipSocket : ℕ)
  | started (socket usbipSocket : ℕ)
  deriving DecidableEq, Repr

/-- `socketpair` gives two different descriptors. -/
def StartOutcome.distinct : StartOutcome → Bool
  | .noSockets _ => true
  | .noVhci _ _ a b | .noReadThread _ a b | .noWriteThread _ a b | .started a b => a != b

namespace Sys

/-! ### Failing calls -/

/-- What a call that reached its `catch` returns after `_reset`: with `throwOnErr` it rethrows
`_s.err`.  `stop` and the destructor only call `_reset`. -/
def failResult (info : Info) (s : Sys) : Call → CallResult
  | .stop | .destroy | .err => .done
  | .start | .write _ _ => if info.throwOnErr then .threw (s.dev.err.getD .stopped) else .done
  | .read _ => if info.throwOnErr then .threw (s.dev.err.getD .stopped) else .nullopt

/-- A client thread is past the call of `_reset` or has to wait in it. -/
def afterReset (info : Info) (s : Sys) (t : ℕ) (call : Call) (finished : Bool) :
    Sys × List SysEvent :=
  if finished then (s.setClient t .idle, [.returned t call (failResult info s call)])
  else (s.setClient t (.resetting call), [])

/-- `_reset(lock, e)` called by a client thread. -/
def callReset (info : Info) (s : Sys) (t : ℕ) (call : Call) (e : Err) : Sys × List SysEvent :=
  let (finished, s', evs) := s.resetEnter (.client t) e
  let (s'', evs') := s'.afterReset info t call finished
  (s'', evs ++ evs')

/-- The call returns. -/
def return_ (s : Sys) (t : ℕ) (call : Call) (result : CallResult) : Sys × List SysEvent :=
  (s.setClient t .idle, [.returned t call result])

/-! ### The calls -/

/-- The device is attached: the descriptor that was given to the driver is closed, and the bits of
the threads are set before they are created. -/
def attached (s : Sys) (socket usbipSocket : ℕ) : Sys :=
  { s with
    socket := socket
    usbipSocket := -1
    closed := (usbipSocket : ℤ) :: s.closed
    flags := { s.flags with readThreadRunning := true, writeThreadRunning := true } }

/-- `start()`.  The assertion that the device is idle aborts the process otherwise. -/
def startCall (info : Info) (s : Sys) (t : ℕ) (o : StartOutcome) : Option (Sys × List SysEvent) :=
  if s.flags = {} then
    let s' : Sys := { s with flags := { s.flags with started := true } }
    match speedFromBCDUSB (bcdDevice info.deviceDesc) with
    | .error e => some (s'.callReset info t .start e)
    | .ok _ =>
      match o with
      | .noSockets errno => some (s'.callReset info t .start (.os "socketpair failed" errno))
      | .noVhci call errno a b =>
        some (({ s' with socket := a, usbipSocket := b } : Sys).callReset info t .start
          (.os call.message errno))
      | .noReadThread errno a b =>
        some ((s'.attached a b).callReset info t .start (.os "std::thread" errno))
      | .noWriteThread errno a b =>
        some (({ s'.attached a b with reader := .launched } : Sys).callReset info t .start
          (.os "std::thread" errno))
      | .started a b =>
        some (({ s'.attached a b with reader := .launched, writer := .launched } : Sys).return_
          t .start .done)
  else none

/-- `read()` from the moment it has the lock, at its beginning or after a wait. -/
def readCall (info : Info) (s : Sys) (t : ℕ) (timeout : Timeout) :
    Option (Sys × List SysEvent) :=
  match readSection info s.dev with
  | (.xfer x, d, evs) =>
    let (s', evs') := (s.setDev d).return_ t (.read timeout) (.xfer x)
    some (s', evs.map .dev ++ evs')
  | (.empty, d, evs) =>
    if timeout = .zero then
      let (s', evs') := (s.setDev d).return_ t (.read timeout) .nullopt
      some (s', evs.map .dev ++ evs')
    else
      some (((s.setDev d).wait (.client t)).setClient t (.reading timeout), evs.map .dev)
  | (.threw e, d, evs) =>
    let (s', evs') := (s.setDev d).callReset info t (.read timeout) e
    some (s', evs.map .dev ++ evs')
  | (.aborted, _, _) => none

/-- `write()` from the moment it has the lock. -/
def writeCall (info : Info) (s : Sys) (t : ℕ) (ep : UInt8) (data : List UInt8) :
    Option (Sys × List SysEvent) :=
  match s.dev.step info (.write ep data) with
  | none => none
  | some (d, evs) =>
    match d.err with
    | none =>
      let (s', evs') := (s.setDev d).return_ t (.write ep data) .done
      some (s', evs.map .dev ++ evs')
    | some e =>
      let (s', evs') := (s.setDev d).callReset info t (.write ep data) e
      some (s', evs.map .dev ++ evs')

/-- The step of a client thread that is not asleep. -/
def stepClient (info : Info) (s : Sys) (t : ℕ) : Option (Sys × List SysEvent) :=
  match s.clients t with
  | .entering .stop => some (s.callReset info t .stop .stopped)
  | .entering .destroy => some (s.callReset info t .destroy .stopped)
  | .entering .err => some (s.return_ t .err (.error s.dev.err))
  | .entering (.read timeout) => s.readCall info t timeout
  | .entering (.write ep data) => s.writeCall info t ep data
  | .reading timeout => s.readCall info t timeout
  | .resetting call =>
    let (finished, s') := s.resetLoop (.client t)
    some (s'.afterReset info t call finished)
  | _ => none

end Sys

end VirtualUSB

import VirtualUSB.Vhci.Driver
import VirtualUSB.Threads.System

/-!
# `start()` and the vhci driver (`VirtualUSBDevice.cpp`)

`startTry` is the `try` block of `start()` with every call into the system and into `USBIPLib.cpp`;
`StartEnv` says how these calls end.  The loop that attaches the device is left only when the
kernel accepts the device or fails with something else than `EBUSY`, so it gets the number of turns
for which it is followed.

`process info` is the program with the variables of `USBIPLib.cpp`: its steps are those of
`threads info`, except that `start()` makes its calls itself.
-/

namespace VirtualUSB

/-! ### The outside -/

/-- How the calls that `start()` makes end. -/
structure StartEnv where
  /-- `socketpair` fails with an `errno`, or gives two descriptors. -/
  sockets : Except ℕ (ℕ × ℕ)
  udev : Udev
  /-- What is in `errno` when the driver cannot be opened or has no free port. -/
  errno : ℕ
  /-- The answer to the write that attaches the device, in each turn of the loop. -/
  kernel : ℕ → Attach → AttachAnswer
  /-- The `errno` with which the creation of the reader thread fails. -/
  readThread : Option ℕ
  /-- The `errno` with which the creation of the writer thread fails. -/
  writeThread : Option ℕ

/-- `socketpair` gives two different descriptors. -/
def StartEnv.distinct (w : StartEnv) : Bool :=
  match w.sockets with
  | .error _ => true
  | .ok (a, b) => a != b

/-- Every call succeeds. -/
def StartEnv.smooth (u : Udev) : StartEnv where
  sockets := .ok (3, 4)
  udev := u
  errno := 0
  kernel _ _ := .attached
  readThread := none
  writeThread := none

/-- What `start()` does with the ports: the list is read, an attempt to attach is answered. -/
inductive StartEvent
  | listed (d : Driver)
  | attempt (a : Attach) (answer : AttachAnswer)
  deriving DecidableEq

/-! ### The loop that attaches the device -/

/-- `_DeviceID` -/
def deviceID : UInt32 := 1

/-- How the loop ends; `running`: it has not ended yet. -/
inductive LoopEnd
  | attached
  | noPort
  | failed (errno : ℕ)
  | running
  deriving DecidableEq, Repr

/-- The attempt that a turn of the loop makes.  The port is passed on as `uint8_t`. -/
def attempt (d : Driver) (sockfd : ℤ) (speed : UInt32) : Attach where
  port := UInt8.ofInt (usbipVhciGetFreePort d speed)
  sockfd := sockfd
  devid := deviceID
  speed := speed

/-- The loop of `start()`, from its `k`-th turn on. -/
def attachLoop (d : Driver) (sockfd : ℤ) (speed : UInt32) (kernel : ℕ → Attach → AttachAnswer) :
    ℕ → ℕ → LoopEnd × List StartEvent
  | 0, _ => (.running, [])
  | turns + 1, k =>
    if usbipVhciGetFreePort d speed < 0 then (.noPort, [])
    else
      let a := attempt d sockfd speed
      match kernel k a with
      | .attached => (.attached, [.attempt a .attached])
      | .failed errno =>
        if errno = ebusy then
          let (stop, log) := attachLoop d sockfd speed kernel turns (k + 1)
          (stop, .attempt a (.failed errno) :: log)
        else (.failed errno, [.attempt a (.failed errno)])

/-! ### The `try` block -/

/-- How the `try` block ends: at its end, with an exception, in a turn of the loop, or the process
is aborted. -/
inductive TryEnd
  | done
  | threw (e : Err)
  | running
  | aborted
  deriving DecidableEq

/-- The end of the `try` block, with the state there. -/
structure StartTry where
  stop : TryEnd
  sys : Sys
  lib : Lib
  log : List StartEvent := []

/-- The `try` block of `start()`, from the state in which the device has its `Started` bit. -/
def startTry (info : Info) (w : StartEnv) (turns : ℕ) (s : Sys) (lib : Lib) : StartTry :=
  match speedFromBCDUSB (bcdDevice info.deviceDesc) with
  | .error e => { stop := .threw e, sys := s, lib }
  | .ok speed =>
    match w.sockets with
    | .error errno => { stop := .threw (.os "socketpair failed" errno), sys := s, lib }
    | .ok (a, b) =>
      let s : Sys := { s with socket := a, usbipSocket := b }
      match usbipVhciDriverOpen w.udev lib with
      | none => { stop := .aborted, sys := s, lib }
      | some (opened, lib) =>
        match opened, lib.vhciDriver with
        | true, some d =>
          match attachLoop d s.usbipSocket speed w.kernel turns 0 with
          | (.running, log) => { stop := .running, sys := s, lib, log := .listed d :: log }
          | (.noPort, log) =>
            { stop := .threw (.os VhciCall.getFreePort.message w.errno), sys := s, lib
              log := .listed d :: log }
          | (.failed errno, log) =>
            { stop := .threw (.os VhciCall.attachDevice2.message errno), sys := s, lib
              log := .listed d :: log }
          | (.attached, log) =>
            let lib := usbipVhciDriverClose lib
            let s := s.attached a b
            match w.readThread with
            | some errno =>
              { stop := .threw (.os "std::thread" errno), sys := s, lib, log := .listed d :: log }
            | none =>
              let s : Sys := { s with reader := .launched }
              match w.writeThread with
              | some errno =>
                { stop := .threw (.os "std::thread" errno), sys := s, lib
                  log := .listed d :: log }
              | none =>
                { stop := .done, sys := { s with writer := .launched }, lib
                  log := .listed d :: log }
        | _, _ =>
          { stop := .threw (.os VhciCall.driverOpen.message w.errno), sys := s, lib }

/-! ### The program with the driver -/

/-- `_s`, the threads, and the variables of `USBIPLib.cpp`. -/
structure Process where
  sys : Sys := {}
  lib : Lib := {}

/-- The steps of the program with the driver.  `start()` is followed for a number of turns of its
loop; the step is that in which it leaves the `try` block. -/
inductive ProcessAction
  | thread (a : Action)
  | start (t : ℕ) (w : StartEnv) (turns : ℕ)

/-- `start()`. -/
def Process.start (info : Info) (p : Process) (t : ℕ) (w : StartEnv) (turns : ℕ) :
    Option (Process × List SysEvent) :=
  if p.sys.flags = {} then
    let s : Sys := { p.sys with flags := { p.sys.flags with started := true } }
    let r := startTry info w turns s p.lib
    match r.stop with
    | .done =>
      let (s, evs) := r.sys.return_ t .start .done
      some ({ sys := s, lib := r.lib }, evs)
    | .threw e =>
      let (s, evs) := r.sys.callReset info t .start e
      some ({ sys := s, lib := r.lib }, evs)
    | .running => none
    | .aborted => none
  else none

/-- The effect of a step. -/
def Process.step (info : Info) (p : Process) : ProcessAction → Option (Process × List SysEvent)
  | .thread (.start _ _) => none
  | .thread a =>
    match p.sys.step info a with
    | some (s, evs) => some ({ p with sys := s }, evs)
    | none => none
  | .start t w turns =>
    if p.sys.clients t = .entering .start ∧ w.distinct = true then p.start info t w turns else none

/-- The program with the given descriptors. -/
def process (info : Info) : LabelledSystem Process ProcessAction SysEvent where
  init := {}
  step := Process.step info

end VirtualUSB

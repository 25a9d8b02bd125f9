import VirtualUSB.App.Main
import VirtualUSB.Vhci.Equiv.Ports
import VirtualUSB.Vhci.Equiv.Start

/-!
# Is the device attached at its USB speed?

`start()` asks for the speed of `bcdDevice`, the release number of the device, and the search for a
port knows the SuperSpeed hub for one of the two SuperSpeed classes only and cuts the number of the
port to eight bits.

`parse_status` stores the row of a port at the index of its number, so the hub of a port is that of
the entry at this index.  `attachesAtSpeed_iff` says when the speed handed over is that of `bcdUSB`
and the port handed over lies on the hub of that speed; where the kernel's tables are in its format,
the hubs of the entries are those that the kernel lists.
-/

namespace VirtualUSB

variable {info : Info} {w : StartEnv} {s : Sys} {lib : Lib} {d : Driver} {speed : UInt32}

/-! ### The speed of the device -/

/-- A version that is not accepted is named in the exception. -/
theorem speedFromBCDUSB_error {bcd : UInt16} {e : Err} (h : speedFromBCDUSB bcd = .error e) :
    ∃ text, e = .runtime text := by
  unfold speedFromBCDUSB at h
  dsimp only at h
  split_ifs at h
  exact ⟨_, (Except.error.inj h).symm⟩

/-- The port with this number lies on the SuperSpeed hub exactly for the two SuperSpeed classes. -/
def OnRightHub (d : Driver) (port : ℕ) (speed : UInt32) : Prop :=
  ∃ idev, d.idev[port]? = some idev ∧
    (idev.hub = .super ↔ speed = Speed.super ∨ speed = Speed.superPlus)

/-- `start()` attaches the device at its USB speed: the descriptor is not rejected, the speed handed
to the kernel is that of `bcdUSB`, and in the cached list the port handed over lies on the hub of
that speed. -/
structure AttachesAtSpeed (info : Info) (w : StartEnv) (s : Sys) (lib : Lib) : Prop where
  /-- The other exceptions of `start()` name a call that failed. -/
  accepted : ∀ turns text, (startTry info w turns s lib).stop ≠ .threw (.runtime text)
  speed : ∀ turns a answer, .attempt a answer ∈ (startTry info w turns s lib).log →
    speedFromBCDUSB (bcdUSB info.deviceDesc) = .ok a.speed
  hub : ∀ turns a answer d, .attempt a answer ∈ (startTry info w turns s lib).log →
    .listed d ∈ (startTry info w turns s lib).log → OnRightHub d a.port.toNat a.speed

/-! ### The hub of the port -/

theorem hub_eq_hubOfClass_iff {hub : HubSpeed} :
    hub = hubOfClass speed ↔
      (hub = .super ↔ speed = Speed.super ∨ speed = Speed.superPlus) := by
  rw [hubOfClass]
  split_ifs with hclass
  · simp [hclass]
  · cases hub <;> simp [hclass]

/-- The search looks on the SuperSpeed hub for `USB_SPEED_SUPER` only. -/
theorem hubOfSpeed_eq_hubOfClass_iff : hubOfSpeed speed = hubOfClass speed ↔
    speed ≠ Speed.superPlus := by
  refine ⟨?_, fun hplus => (hubOfClass_of_ne hplus).symm⟩
  rintro heq rfl
  exact absurd heq (by decide)

/-- A port found for the speed is cut to the number of a port of the right hub: it has a number of
eight bits and the speed is not `USB_SPEED_SUPER_PLUS`, or its number is cut to that of another port
on that hub. -/
def HubFits (d : Driver) (speed : UInt32) (p : ℕ) : Prop :=
  if p < 2 ^ 8 then speed ≠ Speed.superPlus
  else ∃ idev, d.idev[p % 2 ^ 8]? = some idev ∧ idev.hub = hubOfClass speed

theorem onRightHub_iff {p : ℕ} (hp : p ∈ d.freePorts (hubOfSpeed speed)) :
    OnRightHub d (p % 2 ^ 8) speed ↔ HubFits d speed p := by
  simp only [OnRightHub, ← hub_eq_hubOfClass_iff]
  rw [HubFits]
  split_ifs with hlt
  · obtain ⟨idev, hidev, hfree⟩ := hp
    rw [Nat.mod_eq_of_lt hlt, ← hubOfSpeed_eq_hubOfClass_iff, ← hfree.1]
    constructor
    · rintro ⟨idev', hidev', hhub⟩
      obtain rfl := Option.some.inj (hidev'.symm.trans hidev)
      exact hhub
    · intro hhub
      exact ⟨idev, hidev, hhub⟩
  · exact Iff.rfl

/-- The number handed over is that of the port that was found, cut to eight bits. -/
theorem port_attempt_of_isLeast (hnum : Numbered d.idev) {p : ℕ} {idev : ImportedDevice}
    (hp : IsLeast (d.freePorts (hubOfSpeed speed)) p) (hidev : d.idev[p]? = some idev)
    (sockfd : ℤ) : (attempt d sockfd speed).port.toNat = p % 2 ^ 8 := by
  rw [port_attempt (freeEntry_eq_some_iff.mpr ⟨p, hp, hidev⟩)]
  obtain ⟨idev', hidev', hfree⟩ := hp.1
  obtain rfl := Option.some.inj (hidev'.symm.trans hidev)
  exact hnum p idev' hidev hfree.2

/-! ### The attempts -/

/-- An attempt is made with the speed of `bcdDevice` and the smallest port found for it. -/
theorem attempt_spec {turns : ℕ} {a : Attach} {answer : AttachAnswer}
    (hmem : .attempt a answer ∈ (startTry info w turns s lib).log) :
    ∃ x b d lib' p, ReachesLoop info w lib a.speed x b d lib' ∧
      IsLeast (d.freePorts (hubOfSpeed a.speed)) p ∧ a.port.toNat = p % 2 ^ 8 := by
  obtain ⟨u, x, b, d, lib', hr, rfl, -, idev, hfree⟩ := attempt_of_mem_log hmem
  obtain ⟨p, hp, hidev⟩ := freeEntry_eq_some_iff.mp hfree
  exact ⟨x, b, d, lib', p, hr, hp,
    port_attempt_of_isLeast (driverOpen_numbered hr.opens hr.driver) hp hidev b⟩

/-- If there is a free port, the first turn makes an attempt. -/
theorem ReachesLoop.exists_attempt_of_isLeast {x b p : ℕ} {lib' : Lib}
    (hr : ReachesLoop info w lib speed x b d lib')
    (hp : IsLeast (d.freePorts (hubOfSpeed speed)) p) (s : Sys) :
    ∃ a answer, .attempt a answer ∈ (startTry info w 1 s lib).log ∧
      .listed d ∈ (startTry info w 1 s lib).log ∧ a.speed = speed ∧ a.port.toNat = p % 2 ^ 8 := by
  obtain ⟨idev, hidev, -⟩ := hp.1
  obtain ⟨answer, hmem⟩ := hr.exists_attempt (freeEntry_eq_some_iff.mpr ⟨p, hp, hidev⟩) s
  refine ⟨_, answer, hmem, ?_, rfl,
    port_attempt_of_isLeast (driverOpen_numbered hr.opens hr.driver) hp hidev b⟩
  rw [hr.log 1 s]
  exact List.mem_cons_self

/-- The entry of a port is that of its row, if the kernel's tables are in its format. -/
theorem ReachesLoop.entry_of_row {tables : List StatusTable} (htables : w.udev.Lists tables)
    (hports : PortsListed (rowsOf tables) (getNports w.udev).toNat) {a b : ℕ} {lib' : Lib}
    (hr : ReachesLoop info w lib speed a b d lib') {r : StatusRow} (hmem : r ∈ rowsOf tables) :
    d.idev[r.port]? = some r.entry := by
  have hn := driverOpen_nports hr.opens hr.driver
  obtain ⟨hidev, -⟩ := driverOpen_lists hr.opens hr.driver htables (by rw [hn]; exact hports.lt)
  rw [hidev, hn]
  exact getElem?_storeRows hports.nodup hmem _ (by simpa using hports.lt r hmem)

/-! ### The exact condition -/

/-- **The exact condition**: `bcdDevice` is an accepted version too, and if a port is found for its
speed, that speed is the one of `bcdUSB`, and the number of the port, cut to eight bits, is one of
the right hub.  The hub of a port in the list is the one that the kernel lists. -/
theorem attachesAtSpeed_iff (info : Info) (w : StartEnv) (s : Sys) (lib : Lib) :
    (AttachesAtSpeed info w s lib ↔
      ∃ u, speedFromBCDUSB (bcdDevice info.deviceDesc) = .ok u ∧
        ∀ a b d lib', ReachesLoop info w lib u a b d lib' →
          ∀ p, IsLeast (d.freePorts (hubOfSpeed u)) p →
            speedFromBCDUSB (bcdUSB info.deviceDesc) = .ok u ∧ HubFits d u p) ∧
      ∀ tables, w.udev.Lists tables → PortsListed (rowsOf tables) (getNports w.udev).toNat →
        ∀ u a b d lib', ReachesLoop info w lib u a b d lib' →
          ∀ r ∈ rowsOf tables, ∃ idev, d.idev[r.port]? = some idev ∧ idev.hub = r.hub := by
  refine ⟨⟨fun h => ?_, ?_⟩, fun tables htables hports u a b d lib' hr r hmem =>
    ⟨r.entry, hr.entry_of_row htables hports hmem, hub_entry r⟩⟩
  · cases hspeed : speedFromBCDUSB (bcdDevice info.deviceDesc) with
    | error e =>
      obtain ⟨text, rfl⟩ := speedFromBCDUSB_error hspeed
      exact (h.accepted 0 text (by rw [startTry, hspeed])).elim
    | ok u =>
      refine ⟨u, rfl, fun x b d lib' hr p hp => ?_⟩
      obtain ⟨a, answer, hmem, hlisted, rfl, hport⟩ := hr.exists_attempt_of_isLeast hp s
      refine ⟨h.speed 1 a answer hmem, (onRightHub_iff hp.1).mp ?_⟩
      rw [← hport]
      exact h.hub 1 a answer d hmem hlisted
  · rintro ⟨u, hspeed, hfits⟩
    refine ⟨fun turns text => ?_, fun turns a answer hmem => ?_,
      fun turns a answer d' hmem hlisted => ?_⟩
    · have hspec := startTry_spec info w turns s lib
      generalize startTry info w turns s lib = r at hspec
      cases hspec with
      | rejected herr => rw [hspeed] at herr; cases herr
      | _ => simp
    · obtain ⟨x, b, d, lib', p, hr, hp, -⟩ := attempt_spec hmem
      obtain rfl : u = a.speed := Except.ok.inj (hspeed.symm.trans hr.speed)
      exact (hfits x b d lib' hr p hp).1
    · obtain ⟨x, b, d, lib', p, hr, hp, hport⟩ := attempt_spec hmem
      obtain rfl : u = a.speed := Except.ok.inj (hspeed.symm.trans hr.speed)
      rw [hr.listed_eq hlisted, hport]
      exact (onRightHub_iff hp.1).mpr (hfits x b d lib' hr p hp).2

/-- With the small table `start()` attempts to attach a device that is not a SuperSpeed one to the
high-speed port 1. -/
theorem exists_attempt_smallTable {info : Info} {speed : UInt32}
    (hspeed : speedFromBCDUSB (bcdDevice info.deviceDesc) = .ok speed)
    (hhub : hubOfSpeed speed = .high) :
    ∃ a answer, a.port = 1 ∧ a.speed = speed ∧ .attempt a answer
      ∈ (startTry info (.smooth (kernelOf smallTable 3)) 1 ({} : Sys).begun {}).log := by
  obtain ⟨lib', d, hopen, hd, -, hport⟩ :=
    getFreePort_kernelOf smallTable (show PortsListed _ 3 from ⟨by decide, by decide⟩) (by omega)
      (by omega)
  have hr : ReachesLoop info (.smooth (kernelOf smallTable 3)) {} speed 3 4 d lib' :=
    ⟨hspeed, rfl, hopen, hd⟩
  have hone : usbipVhciGetFreePort d speed = 1 := by
    rw [hport, hhub]
    decide
  have hfree : ∃ idev, d.freeEntry speed = some idev := by
    rw [← Option.ne_none_iff_exists', ne_eq, ← usbipVhciGetFreePort_lt_zero_iff, hone]
    decide
  obtain ⟨idev, hidev⟩ := hfree
  obtain ⟨answer, hmem⟩ := hr.exists_attempt hidev ({} : Sys).begun
  exact ⟨_, answer, congrArg UInt8.ofInt hone, rfl, hmem⟩

/-- The device of the application with its USB version as the release number. -/
def matchingInfo : Info :=
  { deviceInfo with deviceDesc := ptrOf ((Descriptor.device.set 12 0x00).set 13 0x02) }

/-- Such a device is attached as a high-speed device, to a high-speed port. -/
theorem attachesAtSpeed_iff_smallTable :
    AttachesAtSpeed matchingInfo (.smooth (kernelOf smallTable 3)) ({} : Sys).begun {} ∧
      ∃ a answer, a.port = 1 ∧ a.speed = Speed.high ∧ .attempt a answer
        ∈ (startTry matchingInfo (.smooth (kernelOf smallTable 3)) 1 ({} : Sys).begun {}).log := by
  refine ⟨(attachesAtSpeed_iff matchingInfo _ _ _).1.mpr
    ⟨Speed.high, by decide, fun a b d lib' hr p hp => ⟨by decide, ?_⟩⟩,
    exists_attempt_smallTable (by decide) rfl⟩
  have hn : d.nports = 3 :=
    (driverOpen_nports hr.opens hr.driver).trans
      (congrArg Int.toNat (getNports_kernelOf smallTable (by omega)))
  obtain ⟨idev, hidev, -⟩ := hp.1
  have hlt := (List.getElem?_eq_some_iff.mp hidev).1
  rw [Driver.nports] at hn
  rw [HubFits, if_pos (by omega)]
  decide

/-- The device of the application, a USB 2.0 device with the release number 1.0, is attached as a
full-speed device. -/
theorem not_attachesAtSpeed :
    speedFromBCDUSB (bcdUSB deviceInfo.deviceDesc) = .ok Speed.high ∧
      (∃ a answer, a.port = 1 ∧ a.speed = Speed.full ∧ .attempt a answer
        ∈ (startTry deviceInfo (.smooth (kernelOf smallTable 3)) 1 ({} : Sys).begun {}).log) ∧
      ¬ AttachesAtSpeed deviceInfo (.smooth (kernelOf smallTable 3)) ({} : Sys).begun {} := by
  have hhigh : speedFromBCDUSB (bcdUSB deviceInfo.deviceDesc) = .ok Speed.high := by decide
  have hdevice : speedFromBCDUSB (bcdDevice deviceInfo.deviceDesc) = .ok Speed.full := by decide
  obtain ⟨a, answer, hport, hfull, hmem⟩ := exists_attempt_smallTable hdevice rfl
  refine ⟨hhigh, ⟨a, answer, hport, hfull, hmem⟩, fun h => ?_⟩
  have heq : Speed.high = a.speed := Except.ok.inj (hhigh.symm.trans (h.speed 1 a answer hmem))
  rw [hfull] at heq
  exact absurd heq (by decide)

end VirtualUSB

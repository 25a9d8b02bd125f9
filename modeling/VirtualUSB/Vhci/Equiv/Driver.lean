import VirtualUSB.Vhci.Driver

/-!
# What opening and closing the driver does

* `parseRows_of_le`: the loop of `parse_status` has enough turns.
* `Listing.Keeps`: reading the list changes no size and releases what it obtains.
* `DriverOpens` lists the ways in which `usbip_vhci_driver_open` can return;
  `usbipVhciDriverOpen_spec` says that there are no others.
* `driverOpen_failed_holds`, `driverOpen_opened_holds`: a failed call holds nothing more than
  before; an opened driver holds the context and the host controller, and closing it releases both.
-/

namespace VirtualUSB

open Scan

variable {u : Udev} {st st' : Listing} {found : Bool}

/-! ### The loop over the rows -/

/-- The next line is shorter. -/
theorem length_of_nextLine {c c' : List Char} (h : nextLine c = some c') :
    c'.length < c.length := by
  induction c with
  | nil => cases h
  | cons ch cs ih =>
    rw [nextLine] at h
    rw [List.length_cons]
    split_ifs at h
    · obtain rfl := Option.some.inj h
      omega
    · have := ih h
      omega

/-- Behind a line without a newline follows the next one. -/
theorem nextLine_append {l : List Char} (hl : '\n' ∉ l) (rest : List Char) :
    nextLine (l ++ '\n' :: rest) = some rest := by
  induction l with
  | nil => rfl
  | cons c cs ih =>
    rw [List.mem_cons, not_or] at hl
    rw [List.cons_append, nextLine, if_neg (Ne.symm hl.1)]
    exact ih hl.2

/-- **The loop of `parse_status` has enough turns**: more turns change nothing. -/
theorem parseRows_of_le {m n : ℕ} {c : List Char} (hm : c.length ≤ m) (hn : c.length ≤ n) :
    parseRows u m c st = parseRows u n c st := by
  induction m generalizing n c st with
  | zero =>
    obtain rfl : c = [] := List.length_eq_zero_iff.mp (by omega)
    cases n <;> rfl
  | succ m ih =>
    cases n with
    | zero =>
      obtain rfl : c = [] := List.length_eq_zero_iff.mp (by omega)
      rfl
    | succ n =>
      cases c with
      | nil => rfl
      | cons ch cs =>
        simp only [parseRows]
        split
        · rfl
        · rfl
        · split
          · rfl
          · rename_i c' hnext
            have hlt := length_of_nextLine hnext
            rw [List.length_cons] at hm hn hlt
            exact ih (by omega) (by omega)

/-! ### Reading the list -/

/-- The entries that can be found to be free know the indices at which they stand, up to eight
bits. -/
def Numbered (idevs : List ImportedDevice) : Prop :=
  ∀ p idev, idevs[p]? = some idev → idev.status = UsbipStatus.vdevStNull →
    idev.port.toNat = p % 2 ^ 8

/-- No entry of a new array is found to be free. -/
theorem numbered_replicate (n : ℕ) : Numbered (List.replicate n {}) := by
  intro p idev hp hstatus
  rw [List.getElem?_replicate] at hp
  split_ifs at hp
  obtain rfl := Option.some.inj hp
  exact absurd hstatus (by decide)

/-- A row is stored at the index of its port. -/
theorem Numbered.set {idevs : List ImportedDevice} (h : Numbered idevs) {port : ℤ} (hpos : 0 ≤ port)
    (hub : List Char) (status devid : ℤ) :
    Numbered (idevs.set port.toNat (importedDevice hub port status devid)) := by
  obtain ⟨n, rfl⟩ := Int.eq_ofNat_of_zero_le hpos
  intro p idev hp hstatus
  rw [List.getElem?_set] at hp
  split_ifs at hp with heq hlt
  · obtain rfl := Option.some.inj hp
    rw [← heq]
    exact toNat_uint8_ofInt n
  · exact h p idev hp hstatus

/-- Reading changes no size, the entries stay numbered, and what was obtained was released. -/
structure Listing.Keeps (st st' : Listing) : Prop where
  length : st'.idev.length = st.idev.length
  numbered : Numbered st.idev → Numbered st'.idev
  holds : ∀ os, st.ledger.Holds os → st'.ledger.Holds os

theorem Listing.Keeps.refl (st : Listing) : st.Keeps st :=
  ⟨rfl, id, fun _ h => h⟩

theorem Listing.Keeps.trans {st'' : Listing} (h : st.Keeps st') (h' : st'.Keeps st'') :
    st.Keeps st'' :=
  ⟨h'.length.trans h.length, fun hnum => h'.numbered (h.numbered hnum),
    fun os hos => h'.holds os (h.holds os hos)⟩

theorem importedDeviceInit_keeps (busid : List Char) (st : Listing) :
    st.Keeps (importedDeviceInit u busid st).2 := by
  unfold importedDeviceInit
  split_ifs
  · exact ⟨rfl, id, fun os h => h.acquire_release⟩
  · exact ⟨rfl, id, fun os h => h⟩

theorem parseRow_keeps {c : List Char} (h : parseRow u c st = some (found, st')) :
    st.Keeps st' := by
  unfold parseRow at h
  split at h
  · rename_i hub port status _ devid rest _
    dsimp only at h
    split_ifs at h with hrange
    all_goals
      have hset : st.Keeps
          { st with idev := st.idev.set port.toNat (importedDevice hub port status devid) } :=
        ⟨List.length_set, fun hnum => hnum.set hrange.1 hub status devid, fun _ h => h⟩
    · obtain ⟨rfl, rfl⟩ := Prod.ext_iff.mp (Option.some.inj h)
      exact hset.trans (importedDeviceInit_keeps _ _)
    · obtain ⟨rfl, rfl⟩ := Prod.ext_iff.mp (Option.some.inj h)
      exact hset
  · cases h

theorem parseRows_keeps {fuel : ℕ} {c : List Char}
    (h : parseRows u fuel c st = some (found, st')) : st.Keeps st' := by
  induction fuel generalizing c st with
  | zero =>
    obtain ⟨rfl, rfl⟩ := Prod.ext_iff.mp (Option.some.inj h)
    exact .refl st
  | succ fuel ih =>
    cases c with
    | nil =>
      obtain ⟨rfl, rfl⟩ := Prod.ext_iff.mp (Option.some.inj h)
      exact .refl st
    | cons ch cs =>
      rw [parseRows.eq_def] at h
      dsimp only at h
      split at h
      · cases h
      · rename_i st₁ hrow
        obtain ⟨rfl, rfl⟩ := Prod.ext_iff.mp (Option.some.inj h)
        exact parseRow_keeps hrow
      · rename_i st₁ hrow
        split at h
        · obtain ⟨rfl, rfl⟩ := Prod.ext_iff.mp (Option.some.inj h)
          exact parseRow_keeps hrow
        · exact (parseRow_keeps hrow).trans (ih h)

theorem parseStatus_keeps {value : List Char} (h : parseStatus u value st = some (found, st')) :
    st.Keeps st' := by
  unfold parseStatus at h
  split at h
  · obtain ⟨rfl, rfl⟩ := Prod.ext_iff.mp (Option.some.inj h)
    exact .refl st
  · exact parseRows_keeps h

/-- Reading the list of all controllers. -/
theorem refresh_keeps {n i : ℕ} (h : refreshImportedDeviceList u n i st = some (found, st')) :
    st.Keeps st' := by
  induction n generalizing i st with
  | zero =>
    obtain ⟨rfl, rfl⟩ := Prod.ext_iff.mp (Option.some.inj h)
    exact .refl st
  | succ n ih =>
    rw [refreshImportedDeviceList] at h
    split at h
    · obtain ⟨rfl, rfl⟩ := Prod.ext_iff.mp (Option.some.inj h)
      exact .refl st
    · split at h
      · cases h
      · rename_i st₁ hparse
        obtain ⟨rfl, rfl⟩ := Prod.ext_iff.mp (Option.some.inj h)
        exact parseStatus_keeps hparse
      · rename_i st₁ hparse
        exact (parseStatus_keeps hparse).trans (ih h)

/-! ### Opening the driver -/

/-- `udev_new` gave a context. -/
def Lib.withContext (lib : Lib) : Lib :=
  { lib with udevContext := some lib.ledger.acquire.1, ledger := lib.ledger.acquire.2 }

/-- The device of the host controller was found. -/
def Lib.withDevice (lib : Lib) : Lib :=
  { lib with ledger := lib.ledger.acquire.2 }

/-- The ways in which `usbip_vhci_driver_open` returns. -/
inductive DriverOpens (u : Udev) (lib : Lib) : Bool → Lib → Prop
  | noContext : DriverOpens u lib false { lib with udevContext := none }
  | noDevice : DriverOpens u lib false (lib.withContext.openFailed none)
  | failed {ledger : Ledger}
      (hledger : ∀ os, lib.withContext.withDevice.ledger.Holds os → ledger.Holds os) :
      DriverOpens u lib false
        (({ lib.withContext.withDevice with ledger := ledger } : Lib).openFailed
          (some lib.withContext.ledger.acquire.1))
  | opened {st : Listing} (hports : 0 < getNports u) (hcontrollers : 0 < getNcontrollers u)
      (hlist : refreshImportedDeviceList u (getNcontrollers u).toNat 0
        { idev := List.replicate (getNports u).toNat {}
          ledger := lib.withContext.withDevice.ledger } = some (true, st)) :
      DriverOpens u lib true
        { lib.withContext.withDevice with
          vhciDriver := some
            { hcDevice := lib.withContext.ledger.acquire.1
              ncontrollers := getNcontrollers u
              idev := st.idev }
          ledger := st.ledger }

/-- **What `usbip_vhci_driver_open` does.** -/
theorem usbipVhciDriverOpen_spec {lib lib' : Lib} {opened : Bool}
    (h : usbipVhciDriverOpen u lib = some (opened, lib')) : DriverOpens u lib opened lib' := by
  -- the exits before the list is read hold the context and the host controller
  have hearly := @DriverOpens.failed u lib lib.withContext.withDevice.ledger fun _ hos => hos
  unfold usbipVhciDriverOpen at h
  dsimp only at h
  split_ifs at h with hcontext hdevice hports hcalloc hcontrollers
  · obtain ⟨rfl, rfl⟩ := Prod.ext_iff.mp (Option.some.inj h)
    exact .noContext
  · obtain ⟨rfl, rfl⟩ := Prod.ext_iff.mp (Option.some.inj h)
    exact .noDevice
  · obtain ⟨rfl, rfl⟩ := Prod.ext_iff.mp (Option.some.inj h)
    exact hearly
  · obtain ⟨rfl, rfl⟩ := Prod.ext_iff.mp (Option.some.inj h)
    exact hearly
  · obtain ⟨rfl, rfl⟩ := Prod.ext_iff.mp (Option.some.inj h)
    exact hearly
  · split at h
    · cases h
    · rename_i st hlist
      obtain ⟨rfl, rfl⟩ := Prod.ext_iff.mp (Option.some.inj h)
      exact .failed (refresh_keeps hlist).holds
    · rename_i st hlist
      obtain ⟨rfl, rfl⟩ := Prod.ext_iff.mp (Option.some.inj h)
      exact .opened (by omega) (by omega) hlist

/-! ### What is held -/

theorem Lib.withDevice_holds {lib : Lib} {os : List ℕ} (h : lib.ledger.Holds os) :
    lib.withContext.withDevice.ledger.Holds
      (lib.withContext.ledger.acquire.1 :: lib.ledger.acquire.1 :: os) :=
  h.acquire.acquire

/-- **A failed call holds nothing**: it has released what it obtained, and there is no driver. -/
theorem driverOpen_failed_holds {lib lib' : Lib} (hnull : lib.vhciDriver = none)
    (h : usbipVhciDriverOpen u lib = some (false, lib')) {os : List ℕ}
    (hos : lib.ledger.Holds os) : lib'.vhciDriver = none ∧ lib'.ledger.Holds os := by
  cases usbipVhciDriverOpen_spec h with
  | noContext => exact ⟨hnull, hos⟩
  | noDevice => exact ⟨rfl, hos.acquire.release⟩
  | failed hledger => exact ⟨rfl, (hledger _ (Lib.withDevice_holds hos)).release.release⟩

/-- An opened driver holds the context and the host controller. -/
theorem driverOpen_opened_holds {lib lib' : Lib}
    (h : usbipVhciDriverOpen u lib = some (true, lib')) {os : List ℕ}
    (hos : lib.ledger.Holds os) :
    ∃ d context, lib'.vhciDriver = some d ∧ lib'.udevContext = some context ∧
      lib'.ledger.Holds (d.hcDevice :: context :: os) := by
  cases usbipVhciDriverOpen_spec h with
  | opened _ _ hlist =>
    exact ⟨_, _, rfl, rfl, (refresh_keeps hlist).holds _ (Lib.withDevice_holds hos)⟩

/-- The cached list is numbered, whatever the kernel has answered. -/
theorem driverOpen_numbered {lib lib' : Lib} {d : Driver}
    (h : usbipVhciDriverOpen u lib = some (true, lib')) (hd : lib'.vhciDriver = some d) :
    Numbered d.idev := by
  cases usbipVhciDriverOpen_spec h with
  | opened _ _ hlist =>
    obtain rfl := Option.some.inj hd
    exact (refresh_keeps hlist).numbered (numbered_replicate _)

/-- Closing the driver releases both. -/
theorem driverClose_holds {lib : Lib} {d : Driver} {context : ℕ} {os : List ℕ}
    (hd : lib.vhciDriver = some d) (hcontext : lib.udevContext = some context)
    (hos : lib.ledger.Holds (d.hcDevice :: context :: os)) :
    (usbipVhciDriverClose lib).vhciDriver = none ∧
      (usbipVhciDriverClose lib).ledger.Holds os := by
  rw [usbipVhciDriverClose, hd, hcontext]
  exact ⟨rfl, hos.release.release⟩

end VirtualUSB

import VirtualUSB.Toastbox.USBDevice

/-!
# Using USB devices through libusb

* `epOffset_eq_iff`: two addresses have the same entry if direction and number are the same.
* `Inv`: what is true of the variables of the file between two calls: how they follow from the calls
  of libusb that were made.
* `openIfNeeded_spec`, `claim_spec`, …: the member functions keep it, and do not change the tables.
* `usb_one_handle`, `usb_transfers_claimed`, `usb_endpoint_table`: what follows for programs.
-/

namespace VirtualUSB.USBDevice

open LabelledSystem

variable {errorName : Int32 → String} {g g₀ g' : UsbState} {base : ℕ}

/-! ### What calls of libusb say -/

namespace UsbCall

/-- The device that the call opened, and its handle. -/
def opened : UsbCall → Option (ℕ × ℕ)
  | openDevice dev result handle => if result < 0 then none else some (dev, handle)
  | _ => none

/-- The interface that the call claimed. -/
def claimed : UsbCall → Option UInt8
  | claimInterface _ number result => if result < 0 then none else some number
  | _ => none

/-- The handle that the call uses. -/
def through : UsbCall → Option ℕ
  | openDevice .. => none
  | claimInterface handle .. => some handle
  | bulkTransfer handle .. => some handle
  | clearHalt handle .. => some handle
  | controlTransfer handle .. => some handle
  | getDescriptor handle .. => some handle

/-- The endpoint that the call is for. -/
def endpoint : UsbCall → Option UInt8
  | bulkTransfer _ epAddr .. => some epAddr
  | clearHalt _ epAddr => some epAddr
  | _ => none

end UsbCall

/-- The devices that were opened, with their handles. -/
def openedBy (calls : List UsbCall) : List (ℕ × ℕ) :=
  calls.filterMap UsbCall.opened

/-- The interfaces that were claimed. -/
def claimedBy (calls : List UsbCall) : List UInt8 :=
  calls.filterMap UsbCall.claimed

/-! ### The invariant -/

/-- What the tables have for an endpoint: the number of its interface, and its descriptor. -/
def lookupIn (numbers : List UInt8) (epInfos : EpIdx → EndpointInfo) (k : EpIdx) :
    Option (UInt8 × EndpointDescriptor) :=
  if (epInfos k).valid then
    (numbers[(epInfos k).ifaceIdx.toNat]?).map fun n =>
      (n, ⟨(epInfos k).epAddr, (epInfos k).maxPacketSize⟩)
  else none

def UsbState.lookup (g : UsbState) : EpIdx → Option (UInt8 × EndpointDescriptor) :=
  lookupIn (g.interfaces.map (·.bInterfaceNumber)) g.epInfos

/-- The number of the interface that the tables have for an address. -/
def UsbState.interfaceOf (g : UsbState) (epAddr : UInt8) : Option UInt8 :=
  (g.lookup (epOffset epAddr)).map Prod.fst

/-- The variables of the file follow from the calls so far; `base` is the number of calls before the
tables were changed for the last time. -/
structure Inv (base : ℕ) (g : UsbState) : Prop where
  /-- One device was opened at most, and its handle is kept. -/
  opened : (openedBy g.calls).map Prod.snd = g.handle.toList
  through : ∀ c ∈ g.calls, ∀ h, c.through = some h → g.handle = some h
  /-- The interfaces that are marked are those that were claimed. -/
  claimed : (claimedBy g.calls).Perm ((g.interfaces.filter (·.claimed)).map (·.bInterfaceNumber))
  /-- The tables fit together. -/
  valid : ∀ k, (g.epInfos k).valid = true →
    epOffset (g.epInfos k).epAddr = k ∧ (g.epInfos k).ifaceIdx.toNat < g.interfaces.length
  /-- A transfer comes after the claim of the interface. -/
  ordered : ∀ pre c post, g.calls = pre ++ c :: post → base ≤ pre.length → ∀ epAddr,
    c.endpoint = some epAddr → ∃ n ∈ claimedBy pre, g.interfaceOf epAddr = some n

/-- The tables are those of `g₀`. -/
structure SameTables (g₀ g : UsbState) : Prop where
  numbers : g.interfaces.map (·.bInterfaceNumber) = g₀.interfaces.map (·.bInterfaceNumber)
  epInfos : g.epInfos = g₀.epInfos

/-- The invariant is kept, and the tables are those of `g₀`. -/
structure Kept (g₀ : UsbState) (base : ℕ) (g : UsbState) : Prop where
  inv : Inv base g
  tables : SameTables g₀ g

theorem SameTables.lookup (h : SameTables g₀ g) : g.lookup = g₀.lookup := by
  rw [UsbState.lookup, UsbState.lookup, h.numbers, h.epInfos]

theorem SameTables.interfaceOf (h : SameTables g₀ g) (epAddr : UInt8) :
    g.interfaceOf epAddr = g₀.interfaceOf epAddr := by
  rw [UsbState.interfaceOf, UsbState.interfaceOf, h.lookup]

theorem inv_init : Inv 0 {} where
  opened := rfl
  through := fun c hc => by cases hc
  claimed := .nil
  valid := fun k hk => by cases hk
  ordered := fun pre c post h => by simp at h

/-- What holds of every element of a list and the elements before it, and of one more element. -/
theorem forall_split_snoc {α : Type*} {l : List α} {a : α} {P : List α → α → Prop}
    (hold : ∀ pre x post, l = pre ++ x :: post → P pre x) (hnew : P l a) :
    ∀ pre x post, l ++ [a] = pre ++ x :: post → P pre x := by
  intro pre x post heq
  rcases List.eq_nil_or_concat post with rfl | ⟨post', y, rfl⟩
  · obtain ⟨rfl, ha⟩ := List.append_inj' heq rfl
    exact (List.cons.inj ha).1 ▸ hnew
  · rw [List.concat_eq_append, ← List.cons_append, ← List.append_assoc] at heq
    exact hold pre x post' (List.append_inj' heq rfl).1

/-- A call that claims nothing is recorded, and the handle follows from it. -/
theorem Kept.call (h : Kept g₀ base g) {c : UsbCall} {handle : Option ℕ}
    (hopened : (openedBy (g.calls ++ [c])).map Prod.snd = handle.toList)
    (hthrough : ∀ c' ∈ g.calls ++ [c], ∀ n, c'.through = some n → handle = some n)
    (hclaimed : c.claimed = none)
    (hendpoint : ∀ epAddr, c.endpoint = some epAddr →
      ∃ n ∈ claimedBy g.calls, g.interfaceOf epAddr = some n) :
    Kept g₀ base { g with calls := g.calls ++ [c], handle := handle } := by
  have hinv := h.inv
  refine ⟨⟨hopened, hthrough, ?_, hinv.valid, ?_⟩, h.tables.numbers, h.tables.epInfos⟩
  · simpa [claimedBy, List.filterMap_append, hclaimed] using hinv.claimed
  · exact forall_split_snoc (P := fun pre c => base ≤ pre.length → ∀ epAddr,
      c.endpoint = some epAddr → ∃ n ∈ claimedBy pre, g.interfaceOf epAddr = some n)
      hinv.ordered fun _ => hendpoint

/-- A call that opens or claims nothing is recorded. -/
theorem Kept.record (h : Kept g₀ base g) {c : UsbCall} (hopened : c.opened = none)
    (hclaimed : c.claimed = none) (hthrough : ∀ n, c.through = some n → g.handle = some n)
    (hendpoint : ∀ epAddr, c.endpoint = some epAddr →
      ∃ n ∈ claimedBy g.calls, g.interfaceOf epAddr = some n) :
    Kept g₀ base { g with calls := g.calls ++ [c] } := by
  refine h.call ?_ (fun c' hc' n hn => ?_) hclaimed hendpoint
  · simpa [openedBy, List.filterMap_append, hopened] using h.inv.opened
  · rcases List.mem_append.mp hc' with hold | hnew
    · exact h.inv.through c' hold n hn
    · rw [List.mem_singleton.mp hnew] at hn
      exact hthrough n hn

/-! ### Opening and claiming -/

/-- What holds when a member function throws. -/
def Thrown (g₀ : UsbState) (base : ℕ) (e : UsbErr) (g : UsbState) : Prop :=
  Kept g₀ base g ∧ e ≠ .outOfRange

theorem checkErr_spec {P : UsbState → Prop} {E : UsbErr → UsbState → Prop} {ir : Int32}
    {errMsg : String} (h : ∀ g msg, P g → E (.runtime msg) g) :
    Triple P (checkErr errorName ir errMsg) (fun _ g => P g) E :=
  .ite (fun _ => .throw fun g hg => h g _ hg) fun _ => .pure fun _ hg => hg

theorem openIfNeeded_run (dev : ℕ) (lib : Answers) (g : UsbState) :
    (openIfNeeded errorName dev lib).run g =
      if g.handle.isSome then (.ok (), g)
      else
        let calls := g.calls ++ [.openDevice dev lib.openResult lib.handle]
        if lib.openResult < 0 then
          (.error (.runtime ("libusb_open failed" ++ ": " ++ errorName lib.openResult)),
            { g with calls := calls })
        else (.ok (), { g with calls := calls, handle := some lib.handle }) := by
  rw [openIfNeeded, Prog.run_bind, Prog.run_read]
  dsimp only
  split_ifs with hhandle
  · rfl
  · rw [Prog.run_bind, record, Prog.run_update]
    dsimp only
    rw [Prog.run_bind, checkErr, if_pos ‹_›]
    rfl
  · rw [Prog.run_bind, record, Prog.run_update]
    dsimp only
    rw [Prog.run_bind, checkErr, if_neg ‹_›]
    rfl

/-- Afterwards there is a handle. -/
theorem openIfNeeded_spec (dev : ℕ) (lib : Answers) :
    Triple (Kept g₀ base) (openIfNeeded errorName dev lib)
      (fun _ g => Kept g₀ base g ∧ g.handle.isSome = true) (Thrown g₀ base) := by
  intro g hg
  rw [openIfNeeded_run]
  split_ifs with hhandle hresult
  · exact ⟨hg, hhandle⟩
  · exact ⟨hg.record (if_pos hresult) rfl nofun nofun, nofun⟩
  · have hnone : g.handle = none := by simpa using hhandle
    have hfirst : openedBy g.calls = [] := by
      have hopened := hg.inv.opened
      rw [hnone] at hopened
      exact List.map_eq_nil_iff.mp hopened
    refine ⟨hg.call ?_ (fun c hc n hn => ?_) rfl nofun, rfl⟩
    · have hnew :
          (UsbCall.openDevice dev lib.openResult lib.handle).opened = some (dev, lib.handle) :=
        if_neg hresult
      rw [openedBy, List.filterMap_append, show g.calls.filterMap UsbCall.opened = [] from hfirst]
      simp [hnew]
    · -- nothing was done with a handle before
      rcases List.mem_append.mp hc with hold | hnew
      · have hsome := hg.inv.through c hold n hn
        rw [hnone] at hsome
        cases hsome
      · rw [List.mem_singleton.mp hnew] at hn
        cases hn

theorem map_set_claimed {ifaces : List Interface} {i : ℕ} {iface : Interface}
    (h : ifaces[i]? = some iface) :
    (ifaces.set i { iface with claimed := true }).map (·.bInterfaceNumber)
      = ifaces.map (·.bInterfaceNumber) := by
  induction ifaces generalizing i with
  | nil => rfl
  | cons x ifaces ih =>
    cases i with
    | zero =>
      obtain rfl : x = iface := by simpa using h
      rfl
    | succ i => exact congrArg (x.bInterfaceNumber :: ·) (ih (by simpa using h))

/-- One more interface is marked. -/
theorem filter_set_claimed {ifaces : List Interface} {i : ℕ} {iface : Interface}
    (h : ifaces[i]? = some iface) (hclaimed : iface.claimed = false) :
    (((ifaces.set i { iface with claimed := true }).filter (·.claimed)).map
        (·.bInterfaceNumber)).Perm
      (iface.bInterfaceNumber :: (ifaces.filter (·.claimed)).map (·.bInterfaceNumber)) := by
  induction ifaces generalizing i with
  | nil => cases h
  | cons x ifaces ih =>
    cases i with
    | zero =>
      obtain rfl : x = iface := by simpa using h
      simp [hclaimed]
    | succ i =>
      have hrest := ih (i := i) (by simpa using h)
      cases hx : x.claimed with
      | false => simpa [List.filter_cons, hx] using hrest
      | true =>
        simp only [List.set_cons_succ, List.filter_cons, hx, if_true, List.map_cons]
        exact (hrest.cons _).trans (.swap ..)

/-- The interface of an endpoint is claimed and marked. -/
theorem Kept.claim (h : Kept g₀ base g) {i n : ℕ} {iface : Interface} {result : Int32}
    (hiface : g.interfaces[i]? = some iface) (hclaimed : iface.claimed = false)
    (hhandle : g.handle = some n) (hresult : ¬ result < 0) :
    Kept g₀ base { g with
      calls := g.calls ++ [.claimInterface n iface.bInterfaceNumber result]
      interfaces := g.interfaces.set i { iface with claimed := true } } := by
  have hinv := h.inv
  have hnumbers := map_set_claimed hiface
  have hsame : SameTables g { g with
      calls := g.calls ++ [.claimInterface n iface.bInterfaceNumber result]
      interfaces := g.interfaces.set i { iface with claimed := true } } := ⟨hnumbers, rfl⟩
  refine ⟨⟨?_, ?_, ?_, ?_, ?_⟩, hnumbers.trans h.tables.numbers, h.tables.epInfos⟩
  · have hnew : (UsbCall.claimInterface n iface.bInterfaceNumber result).opened = none := rfl
    simpa [openedBy, List.filterMap_append, hnew] using hinv.opened
  · intro c hc m hm
    rcases List.mem_append.mp hc with hold | hnew
    · exact hinv.through c hold m hm
    · rw [List.mem_singleton.mp hnew] at hm
      exact hhandle.trans hm
  · have hnew : claimedBy [.claimInterface n iface.bInterfaceNumber result]
        = [iface.bInterfaceNumber] := by
      simp [claimedBy, UsbCall.claimed, hresult]
    rw [claimedBy, List.filterMap_append]
    show (claimedBy g.calls ++ claimedBy _).Perm _
    rw [hnew]
    exact (List.perm_append_singleton _ _).trans
      ((hinv.claimed.cons _).trans (filter_set_claimed hiface hclaimed).symm)
  · intro k hk
    rw [List.length_set]
    exact hinv.valid k hk
  · refine forall_split_snoc (P := fun pre c => base ≤ pre.length → ∀ epAddr,
      c.endpoint = some epAddr → ∃ n ∈ claimedBy pre, UsbState.interfaceOf _ epAddr = some n)
      (fun pre c post heq hbase epAddr hep => ?_) fun _ _ hep => ?_
    · rw [hsame.interfaceOf]
      exact hinv.ordered pre c post heq hbase epAddr hep
    · cases hep

/-- The interface of an endpoint is claimed, and there is a handle. -/
structure Ready (g₀ : UsbState) (base : ℕ) (epAddr : UInt8) (g : UsbState) : Prop where
  kept : Kept g₀ base g
  handle : g.handle.isSome = true
  claimed : ∃ n ∈ claimedBy g.calls, g.interfaceOf epAddr = some n

theorem epInfo_run (epAddr : UInt8) (g : UsbState) :
    (epInfo epAddr).run g =
      if (g.epInfos (epOffset epAddr)).valid then (.ok (g.epInfos (epOffset epAddr)), g)
      else (.error (.runtime ("invalid endpoint address: 0x" ++ hex02 epAddr)), g) := by
  rw [epInfo, Prog.run_bind, Prog.run_read]
  dsimp only
  cases (g.epInfos (epOffset epAddr)).valid <;> rfl

theorem theHandle_run (g : UsbState) : theHandle.run g = (.ok (g.handle.getD 0), g) := rfl

theorem claim_spec (dev : ℕ) (epAddr : UInt8) (lib : Answers) :
    Triple (Kept g₀ base) (claimInterfaceForEndpointAddr errorName dev epAddr lib)
      (fun _ g => Ready g₀ base epAddr g) (Thrown g₀ base) := by
  refine (openIfNeeded_spec dev lib).bind fun _ => ?_
  rintro g ⟨hkept, hhandle⟩
  obtain ⟨n, hn⟩ := Option.isSome_iff_exists.mp hhandle
  rw [Prog.run_bind, epInfo_run]
  split_ifs with hvalid
  · dsimp only
    have hlt := (hkept.inv.valid _ hvalid).2
    rw [Prog.run_bind, Prog.run_read]
    dsimp only
    obtain ⟨iface, hiface⟩ : ∃ iface,
        g.interfaces[(g.epInfos (epOffset epAddr)).ifaceIdx.toNat]? = some iface :=
      ⟨_, List.getElem?_eq_getElem hlt⟩
    have hof : g.interfaceOf epAddr = some iface.bInterfaceNumber := by
      rw [UsbState.interfaceOf, UsbState.lookup, lookupIn, if_pos hvalid, List.getElem?_map, hiface]
      rfl
    rw [hiface]
    dsimp only
    split_ifs with hclaimed
    · -- it was claimed before
      refine ⟨hkept, hhandle, iface.bInterfaceNumber, ?_, hof⟩
      refine hkept.inv.claimed.mem_iff.mpr (List.mem_map_of_mem (List.mem_filter.mpr ?_))
      exact ⟨List.mem_of_getElem? hiface, hclaimed⟩
    · -- it is claimed now
      rw [Prog.run_bind, theHandle_run, hn]
      dsimp only [Option.getD_some]
      rw [Prog.run_bind, record, Prog.run_update]
      dsimp only
      rw [Prog.run_bind, checkErr]
      split_ifs with hresult
      · refine ⟨hkept.record rfl (if_pos hresult) (fun m hm => ?_) nofun, nofun⟩
        rw [hn]
        exact hm
      · have hnew := hkept.claim hiface (Bool.eq_false_iff.mpr hclaimed) hn hresult
        refine ⟨hnew, hhandle, iface.bInterfaceNumber, ?_, ?_⟩
        · exact List.mem_filterMap.mpr ⟨_, List.mem_append_right _ (List.mem_singleton_self _),
            if_neg hresult⟩
        · exact (hnew.tables.interfaceOf epAddr).trans
            ((hkept.tables.interfaceOf epAddr).symm.trans hof)
  · exact ⟨hkept, nofun⟩

/-! ### Member functions -/

section Specs

variable {E : UsbErr → UsbState → Prop} {epAddr : UInt8} {n : ℕ} {c : UsbCall}

theorem theHandle_spec {P : UsbState → Prop} (h : ∀ g, P g → g.handle.isSome = true) :
    Triple P theHandle (fun n g => P g ∧ g.handle = some n) E := by
  intro g hg
  obtain ⟨n, hn⟩ := Option.isSome_iff_exists.mp (h g hg)
  rw [theHandle_run, hn]
  exact ⟨hg, hn⟩

/-- A transfer is recorded. -/
theorem record_transfer (hopened : c.opened = none) (hclaimed : c.claimed = none)
    (hthrough : c.through = some n) (hendpoint : c.endpoint = some epAddr) :
    Triple (fun g => Ready g₀ base epAddr g ∧ g.handle = some n) (record c)
      (fun _ => Kept g₀ base) E := by
  refine .update fun g ⟨hready, hn⟩ => hready.kept.record hopened hclaimed (fun m hm => ?_)
    fun ep hep => ?_
  · rw [hn, ← hthrough, hm]
  · obtain rfl := Option.some.inj (hep.symm.trans hendpoint)
    exact hready.claimed

/-- A call that is not for an endpoint is recorded. -/
theorem record_control (hopened : c.opened = none) (hclaimed : c.claimed = none)
    (hthrough : c.through = some n) (hendpoint : c.endpoint = none) :
    Triple (fun g => (Kept g₀ base g ∧ g.handle.isSome = true) ∧ g.handle = some n) (record c)
      (fun _ => Kept g₀ base) E := by
  refine .update fun g ⟨⟨hkept, _⟩, hn⟩ => hkept.record hopened hclaimed (fun m hm => ?_)
    fun ep hep => ?_
  · rw [hn, ← hthrough, hm]
  · exact absurd (hep.symm.trans hendpoint) nofun

theorem checkErr_kept {ir : Int32} {errMsg : String} :
    Triple (Kept g₀ base) (checkErr errorName ir errMsg) (fun _ => Kept g₀ base) (Thrown g₀ base) :=
  checkErr_spec fun _ _ hg => ⟨hg, nofun⟩

theorem read_spec (dev : ℕ) (len : UInt64) (timeout : Int64) (lib : Answers) :
    Triple (Kept g₀ base) (read errorName dev epAddr len timeout lib) (fun _ => Kept g₀ base)
      (Thrown g₀ base) :=
  (claim_spec dev epAddr lib).bind fun _ => (theHandle_spec fun _ h => h.handle).bind fun _ =>
    (record_transfer rfl rfl rfl rfl).bind fun _ => checkErr_kept.bind fun _ => .pure fun _ h => h

theorem readObject_spec (dev : ℕ) (size : UInt64) (timeout : Int64) (lib : Answers) :
    Triple (Kept g₀ base) (readObject errorName dev epAddr size timeout lib) (fun _ => Kept g₀ base)
      (Thrown g₀ base) :=
  (read_spec dev size timeout lib).bind fun _ =>
    .ite (fun _ => .throw fun _ h => ⟨h, nofun⟩) fun _ => .pure fun _ h => h

theorem write_spec (dev : ℕ) (len : UInt64) (timeout : Int64) (lib : Answers) :
    Triple (Kept g₀ base) (write errorName dev epAddr len timeout lib) (fun _ => Kept g₀ base)
      (Thrown g₀ base) :=
  (claim_spec dev epAddr lib).bind fun _ => (theHandle_spec fun _ h => h.handle).bind fun _ =>
    (record_transfer rfl rfl rfl rfl).bind fun _ => checkErr_kept.bind fun _ =>
      .ite (fun _ => .throw fun _ h => ⟨h, nofun⟩) fun _ => .pure fun _ h => h

theorem reset_spec (dev : ℕ) (lib : Answers) :
    Triple (Kept g₀ base) (reset errorName dev epAddr lib) (fun _ => Kept g₀ base)
      (Thrown g₀ base) :=
  (claim_spec dev epAddr lib).bind fun _ => (theHandle_spec fun _ h => h.handle).bind fun _ =>
    (record_transfer rfl rfl rfl rfl).bind fun _ => checkErr_kept

theorem vendorRequestOut_spec (dev : ℕ) (req : UInt8) (len : UInt64) (timeout : Int64)
    (lib : Answers) :
    Triple (Kept g₀ base) (vendorRequestOut errorName dev req len timeout lib)
      (fun _ => Kept g₀ base) (Thrown g₀ base) :=
  (openIfNeeded_spec dev lib).bind fun _ => (theHandle_spec fun _ h => h.2).bind fun _ =>
    (record_control rfl rfl rfl rfl).bind fun _ => checkErr_kept

theorem string_spec (dev : ℕ) (idx : UInt8) (lib : Answers) :
    Triple (Kept g₀ base) (string errorName dev idx lib) (fun _ => Kept g₀ base)
      (Thrown g₀ base) := by
  refine (openIfNeeded_spec dev lib).bind fun _ => (theHandle_spec fun _ h => h.2).bind fun _ =>
    (record_control rfl rfl rfl rfl).bind fun _ => checkErr_kept.bind fun _ => ?_
  split
  · exact .throw fun _ h => ⟨h, nofun⟩
  · exact .pure fun _ h => h

theorem maxPacketSize_spec : Triple (Kept g₀ base) (maxPacketSize epAddr) (fun _ => Kept g₀ base)
    (Thrown g₀ base) := by
  intro g hg
  rw [maxPacketSize, Prog.run_bind, epInfo_run]
  split_ifs
  · exact hg
  · exact ⟨hg, nofun⟩

end Specs

/-- **Every member function but the constructor** keeps the invariant and the tables. -/
theorem UsbOp.prog_spec {op : UsbOp} (hop : ∀ config, op ≠ .construct config) :
    Triple (Kept g₀ base) (op.prog errorName) (fun _ => Kept g₀ base) (Thrown g₀ base) := by
  cases op with
  | construct config => exact absurd rfl (hop config)
  | read dev epAddr len timeout lib =>
    exact (read_spec dev len timeout lib).bind fun _ => .pure fun _ h => h
  | readObject dev epAddr size timeout lib =>
    exact (readObject_spec dev size timeout lib).bind fun _ => .pure fun _ h => h
  | write dev epAddr len timeout lib =>
    exact (write_spec dev len timeout lib).bind fun _ => .pure fun _ h => h
  | reset dev epAddr lib => exact (reset_spec dev lib).bind fun _ => .pure fun _ h => h
  | vendorRequestOut dev req len timeout lib =>
    exact (vendorRequestOut_spec dev req len timeout lib).bind fun _ => .pure fun _ h => h
  | string dev idx lib => exact (string_spec dev idx lib).bind fun _ => .pure fun _ h => h
  | maxPacketSize epAddr => exact maxPacketSize_spec.bind fun _ => .pure fun _ h => h
  | endpoints => exact fun g hg => hg

end VirtualUSB.USBDevice

import VirtualUSB.Vhci.Equiv.Attach
import VirtualUSB.Vhci.Equiv.Driver
import VirtualUSB.Vhci.StatusTable

/-!
# Which port does `usbip_vhci_get_free_port` choose?

* `sscanf_line`: a row of the kernel is read back field by field.
* `refresh_lists`: the list that is read holds the entry of each row at the index of its port.
* `usbipVhciGetFreePort_eq`: the port chosen is the smallest free one on the hub, modulo 256, since
  `usbip_imported_device` stores the number in a `uint8_t`.
* `choosesListed_iff`: the exact condition under which it is a port that the kernel listed as free.
-/

namespace VirtualUSB

open Scan

variable {u : Udev} {st st' : Listing} {rows : List StatusRow}

/-! ### Reading a row -/

/-- A number between two blanks is read back. -/
theorem sscanf_field {b : ℕ} (hb' : 1 < b) (hb : b ≤ 16) (signed : Bool) (width n : ℕ)
    (ds : List Directive) (cs : List Char) :
    sscanf (.space :: .conv (.num b signed) :: ds) (' ' :: (padded b width n ++ ' ' :: cs))
      = .num (store signed n) :: sscanf ds (' ' :: cs) := by
  have hends : Ends (' ' :: cs) := rfl
  rw [sscanf_space, sscanf_cons_of_isSpace rfl, sscanf_padded hb' hb signed width n ds hends]

/-- **A row is read back** field by field. -/
theorem sscanf_line (r : StatusRow) (rest : List Char) :
    sscanf statusFormat (r.line ++ rest)
      = [.str r.hub.tag, .num (store true r.port), .num (store true r.status.toNat),
        .num (store true r.speed.toNat), .num (store false r.devid.toNat),
        .num (store false r.sockfd.toNat), .str (r.busid.take 31)] := by
  have hblank : ∀ cs, Ends (' ' :: cs) := fun cs => rfl
  have hends : Ends ('\n' :: rest) := rfl
  have htag : r.hub.tag ≠ [] ∧ (∀ c ∈ r.hub.tag, isSpace c = false) ∧ r.hub.tag.length = 2 := by
    cases r.hub <;> exact ⟨by simp [HubSpeed.tag], by simp [HubSpeed.tag, isSpace], rfl⟩
  obtain ⟨hne, hword, hlen⟩ := htag
  simp only [StatusRow.line, StatusRow.text, List.append_assoc, List.cons_append, List.nil_append,
    statusFormat]
  rw [sscanf_word (by omega) hne hword _ (hblank _), List.take_of_length_le hlen.le,
    List.drop_of_length_le hlen.le, List.nil_append]
  -- the hub is followed by two blanks, of which the first one is skipped by the format
  rw [sscanf_cons_of_isSpace rfl]
  rw [sscanf_field (by omega) (by omega), sscanf_field (by omega) (by omega),
    sscanf_field (by omega) (by omega), sscanf_field (by omega) (by omega),
    sscanf_field (by omega) (by omega), sscanf_space, sscanf_cons_of_isSpace rfl,
    sscanf_word (by omega) r.busid_ne_nil r.busid_word _ hends]
  rfl

/-- A row ends with the only newline in it. -/
theorem newline_not_mem_text (r : StatusRow) : '\n' ∉ r.text := by
  have hword : ∀ cs : List Char, (∀ c ∈ cs, isSpace c = false) → '\n' ∉ cs := by
    intro cs h hmem
    have hspace := h _ hmem
    cases hspace
  have hdigits : ∀ {b} width n, 1 < b → b ≤ 16 → '\n' ∉ padded b width n := by
    intro b width n hb' hb
    exact hword _ fun c hc => (ne_of_isDigit hb (isDigit_of_mem_padded hb' hb width n c hc)).1
  have htag : '\n' ∉ r.hub.tag := by cases r.hub <;> decide
  have hbusid : '\n' ∉ r.busid := hword _ r.busid_word
  simp [StatusRow.text, htag, hbusid, hdigits]

theorem nextLine_line (r : StatusRow) (rest : List Char) :
    nextLine (r.line ++ rest) = some rest := by
  rw [StatusRow.line, List.append_assoc]
  exact nextLine_append (newline_not_mem_text r) rest

/-! ### The entry of a row -/

/-- What is stored for a row. -/
def StatusRow.entry (r : StatusRow) : ImportedDevice :=
  importedDevice r.hub.tag (store true r.port) (store true r.status.toNat)
    (store false r.devid.toNat)

@[simp] theorem hub_entry (r : StatusRow) : r.entry.hub = r.hub := by
  cases hhub : r.hub <;> simp [StatusRow.entry, importedDevice, hhub, HubSpeed.tag]

@[simp] theorem status_entry (r : StatusRow) : r.entry.status = r.status := by
  have hlt := r.status.toNat_lt
  have hmin : max (-2 ^ 63) (min (r.status.toNat : ℤ) (2 ^ 63 - 1)) = r.status.toNat := by omega
  apply UInt32.toNat_inj.mp
  show (UInt32.ofInt (store true r.status.toNat)).toNat = r.status.toNat
  rw [store, if_pos rfl, hmin, UInt32.ofInt, UInt32.toNat_ofNat']
  have hmod : ((r.status.toNat : ℤ).bmod (2 ^ 32)) % 2 ^ 32 = r.status.toNat := by
    have := @Int.bmod_emod (r.status.toNat : ℤ) (2 ^ 32)
    omega
  omega

/-- The number of the port is cut to eight bits. -/
theorem port_entry {r : StatusRow} (h : r.port < 2 ^ 31) :
    r.entry.port.toNat = r.port % 2 ^ 8 := by
  show (UInt8.ofInt (store true r.port)).toNat = r.port % 2 ^ 8
  rw [store_of_lt h, toNat_uint8_ofInt]

/-! ### Reading the tables -/

/-- The array with the entries of the rows stored in it. -/
def storeRows (rows : List StatusRow) (idev : List ImportedDevice) : List ImportedDevice :=
  rows.foldl (fun idev r => idev.set r.port r.entry) idev

@[simp] theorem length_storeRows (rows : List StatusRow) (idev : List ImportedDevice) :
    (storeRows rows idev).length = idev.length := by
  induction rows generalizing idev with
  | nil => rfl
  | cons r rows ih => exact (ih _).trans List.length_set

theorem storeRows_append (rows rows' : List StatusRow) (idev : List ImportedDevice) :
    storeRows (rows ++ rows') idev = storeRows rows' (storeRows rows idev) :=
  List.foldl_append

/-- How reading rows ends: their entries are stored, or an imported device was not found. -/
inductive ReadsRows (u : Udev) (rows : List StatusRow) (st : Listing) :
    Option (Bool × Listing) → Prop
  | found {st' : Listing} (hidev : st'.idev = storeRows rows st.idev) :
      ReadsRows u rows st (some (true, st'))
  | notFound {st' : Listing} {k : ℕ} {busid : List Char} (h : u.usbDevice k busid = false) :
      ReadsRows u rows st (some (false, st'))

/-- If reading succeeds, the entries are stored. -/
theorem ReadsRows.idev_eq (h : ReadsRows u rows st (some (true, st'))) :
    st'.idev = storeRows rows st.idev := by
  cases h with
  | found hidev => exact hidev

/-- Reading succeeds if every imported device can be looked up. -/
theorem ReadsRows.of_lookups {r : Option (Bool × Listing)} (h : ReadsRows u rows st r)
    (hlookup : ∀ k busid, u.usbDevice k busid = true) : ∃ st', r = some (true, st') := by
  cases h with
  | found => exact ⟨_, rfl⟩
  | notFound hnone => cases hnone.symm.trans (hlookup _ _)

/-- The rows that follow are read after the first ones. -/
theorem ReadsRows.trans {rows' : List StatusRow} {r : Option (Bool × Listing)}
    (hidev : st'.idev = storeRows rows st.idev) (h : ReadsRows u rows' st' r) :
    ReadsRows u (rows ++ rows') st r := by
  cases h with
  | found hidev' => exact .found (by rw [hidev', hidev, storeRows_append])
  | notFound hnone => exact .notFound hnone

/-- A turn of the loop reads a row. -/
theorem parseRow_line (r : StatusRow) (rest : List Char) (hport : r.port < st.idev.length)
    (hlt : r.port < 2 ^ 31) : ReadsRows u [r] st (parseRow u (r.line ++ rest) st) := by
  have hrange : 0 ≤ store true r.port ∧ store true r.port < st.idev.length := by
    rw [store_of_lt hlt]
    omega
  have hindex : (store true r.port).toNat = r.port := by
    rw [store_of_lt hlt]
    rfl
  rw [parseRow, sscanf_line]
  dsimp only
  rw [if_pos hrange, hindex]
  split_ifs
  · rw [importedDeviceInit]
    split_ifs with hfound
    · exact .found rfl
    · exact .notFound (Bool.eq_false_iff.mpr hfound)
  · exact .found rfl

/-- The loop reads all rows. -/
theorem parseRows_lines {n : ℕ} (st : Listing) (hports : ∀ r ∈ rows, r.port < st.idev.length)
    (hsize : st.idev.length < 2 ^ 31) (hn : (rows.flatMap StatusRow.line).length ≤ n) :
    ReadsRows u rows st (parseRows u n (rows.flatMap StatusRow.line) st) := by
  induction rows generalizing n st with
  | nil => cases n <;> exact .found rfl
  | cons r rows ih =>
    have hport := hports r List.mem_cons_self
    have hrow : ReadsRows u [r] st _ :=
      parseRow_line r (rows.flatMap StatusRow.line) hport (by omega)
    have hpos : 0 < r.line.length := by simp [StatusRow.line]
    rw [List.flatMap_cons, List.length_append] at hn
    obtain ⟨n, rfl⟩ : ∃ m, n = m + 1 := ⟨n - 1, by omega⟩
    have hne : r.line ++ rows.flatMap StatusRow.line ≠ [] := by simp [StatusRow.line]
    obtain ⟨c, cs, hline⟩ := List.exists_cons_of_ne_nil hne
    rw [List.flatMap_cons, hline, parseRows, ← hline]
    · generalize parseRow u (r.line ++ rows.flatMap StatusRow.line) st = res at hrow
      cases hrow with
      | notFound h => exact .notFound h
      | @found st₁ hidev =>
        have hlen : st₁.idev.length = st.idev.length := by rw [hidev, length_storeRows]
        dsimp only
        rw [nextLine_line]
        exact .trans hidev (ih st₁ (fun r' hr' => hlen ▸ hports r' (List.mem_cons_of_mem _ hr'))
          (hlen ▸ hsize) (by omega))
    · simp

theorem parseStatus_text (table : StatusTable) (hports : ∀ r ∈ table.rows, r.port < st.idev.length)
    (hsize : st.idev.length < 2 ^ 31) :
    ReadsRows u table.rows st (parseStatus u table.text st) := by
  rw [parseStatus, StatusTable.text, nextLine_append table.header_line]
  exact parseRows_lines st hports hsize le_rfl

/-- **The list that is read** holds the entries of the rows of all tables. -/
theorem refresh_lists {tables : List StatusTable} {i : ℕ} (st : Listing)
    (hattr : ∀ j table, tables[j]? = some table → u.sysattr (statusName (i + j)) = some table.text)
    (hports : ∀ r ∈ rowsOf tables, r.port < st.idev.length) (hsize : st.idev.length < 2 ^ 31) :
    ReadsRows u (rowsOf tables) st (refreshImportedDeviceList u tables.length i st) := by
  induction tables generalizing i st with
  | nil => exact .found rfl
  | cons table tables ih =>
    have hrows : rowsOf (table :: tables) = table.rows ++ rowsOf tables := List.flatMap_cons
    rw [hrows, List.forall_mem_append] at hports
    have hparse : ReadsRows u table.rows st _ := parseStatus_text table hports.1 hsize
    have hrest : ∀ j table, tables[j]? = some table →
        u.sysattr (statusName (i + 1 + j)) = some table.text := by
      intro j table hj
      rw [show i + 1 + j = i + (j + 1) by omega]
      exact hattr (j + 1) table hj
    have hfirst : u.sysattr (statusName i) = some table.text := hattr 0 table rfl
    rw [hrows, List.length_cons, refreshImportedDeviceList, hfirst]
    dsimp only
    generalize parseStatus u table.text st = res at hparse
    cases hparse with
    | notFound h => exact .notFound h
    | @found st₁ hidev =>
      have hlen : st₁.idev.length = st.idev.length := by rw [hidev, length_storeRows]
      exact .trans hidev (ih st₁ hrest (hlen ▸ hports.2) (hlen ▸ hsize))

/-! ### The array that was read -/

/-- No row was stored at this index. -/
theorem getElem?_storeRows_of_not_mem {i : ℕ} (h : ∀ r ∈ rows, r.port ≠ i)
    (idev : List ImportedDevice) : (storeRows rows idev)[i]? = idev[i]? := by
  induction rows generalizing idev with
  | nil => rfl
  | cons r rows ih =>
    rw [List.forall_mem_cons] at h
    show (storeRows rows (idev.set r.port r.entry))[i]? = idev[i]?
    rw [ih h.2, List.getElem?_set_ne h.1]

/-- A row is stored at the index of its port, and no other row is stored there. -/
theorem getElem?_storeRows {r : StatusRow} (hnodup : (rows.map StatusRow.port).Nodup)
    (hr : r ∈ rows)
    (idev : List ImportedDevice) (hlt : r.port < idev.length) :
    (storeRows rows idev)[r.port]? = some r.entry := by
  induction rows generalizing idev with
  | nil => cases hr
  | cons r' rows ih =>
    rw [List.map_cons, List.nodup_cons] at hnodup
    show (storeRows rows (idev.set r'.port r'.entry))[r.port]? = some r.entry
    rcases List.mem_cons.mp hr with rfl | hmem
    · have hother : ∀ r'' ∈ rows, r''.port ≠ r.port := by
        intro r'' hr'' heq
        exact hnodup.1 (heq ▸ List.mem_map_of_mem hr'')
      rw [getElem?_storeRows_of_not_mem hother, List.getElem?_set_self hlt]
    · exact ih hnodup.2 hmem _ (by rwa [List.length_set])

/-- The entry of a row is free if the row is. -/
theorem entry_free_iff (r : StatusRow) (hub : HubSpeed) : r.entry.Free hub ↔ r.Free hub := by
  rw [ImportedDevice.Free, hub_entry, status_entry, StatusRow.Free]

/-- An entry that was not read is not free. -/
theorem not_free_default (hub : HubSpeed) : ¬ ({} : ImportedDevice).Free hub := by
  rintro ⟨-, hstatus⟩
  exact absurd hstatus (by decide)

variable {d : Driver} {nports : ℕ}

/-- **The free ports of the list** are those that are listed as free. -/
theorem mem_freePorts_iff {hub : HubSpeed} {p : ℕ} (hports : PortsListed rows nports)
    (hd : d.idev = storeRows rows (List.replicate nports {})) :
    p ∈ d.freePorts hub ↔ ∃ r ∈ rows, r.Free hub ∧ r.port = p := by
  have hentry : ∀ r ∈ rows, d.idev[r.port]? = some r.entry := fun r hr =>
    hd ▸ getElem?_storeRows hports.nodup hr _ (by simpa using hports.lt r hr)
  constructor
  · rintro ⟨idev, hidev, hfree⟩
    by_cases hrow : ∃ r ∈ rows, r.port = p
    · obtain ⟨r, hr, rfl⟩ := hrow
      obtain rfl := Option.some.inj ((hentry r hr).symm.trans hidev)
      exact ⟨r, hr, (entry_free_iff r hub).mp hfree, rfl⟩
    · rw [hd, getElem?_storeRows_of_not_mem fun r hr heq => hrow ⟨r, hr, heq⟩,
        List.getElem?_replicate] at hidev
      split_ifs at hidev
      obtain rfl := Option.some.inj hidev
      exact absurd hfree (not_free_default hub)
  · rintro ⟨r, hr, hfree, rfl⟩
    exact ⟨r.entry, hentry r hr, (entry_free_iff r hub).mpr hfree⟩

/-- The search finds the entry of the smallest port that is listed as free. -/
theorem freeEntry_eq (hports : PortsListed rows nports)
    (hd : d.idev = storeRows rows (List.replicate nports {})) (speed : UInt32) :
    (leastFree rows (hubOfSpeed speed) = none ∧ d.freeEntry speed = none) ∨
      ∃ r ∈ rows, leastFree rows (hubOfSpeed speed) = some r.port ∧
        d.freeEntry speed = some r.entry := by
  cases hfree : d.freeEntry speed with
  | none =>
    refine .inl ⟨leastFree_eq_none_iff.mpr fun r hr hrfree => ?_, rfl⟩
    obtain ⟨idev, hidev, hfree'⟩ := (mem_freePorts_iff hports hd).mpr ⟨r, hr, hrfree, rfl⟩
    exact freeEntry_eq_none_iff.mp hfree idev (List.mem_of_getElem? hidev) hfree'
  | some idev =>
    obtain ⟨p, ⟨hmem, hleast⟩, hidev⟩ := freeEntry_eq_some_iff.mp hfree
    obtain ⟨r, hr, hrfree, rfl⟩ := (mem_freePorts_iff hports hd).mp hmem
    have hentry := getElem?_storeRows hports.nodup hr (List.replicate nports {})
      (by simpa using hports.lt r hr)
    rw [← hd, hidev] at hentry
    refine .inr ⟨r, hr, leastFree_eq_some_iff.mpr ⟨⟨r, hr, hrfree, rfl⟩, fun r' hr' hfree' => ?_⟩,
      hentry⟩
    exact hleast ((mem_freePorts_iff hports hd).mpr ⟨r', hr', hfree', rfl⟩)

/-! ### The port that is chosen -/

/-- What the search returns for a port, or for none. -/
def returned : Option ℕ → ℤ
  | none => -1
  | some p => p

theorem returned_inj {p q : Option ℕ} : returned p = returned q ↔ p = q := by
  cases p <;> cases q <;> simp [returned]

/-- The port that is returned is the smallest free one on the hub, cut to eight bits. -/
theorem usbipVhciGetFreePort_eq (hports : PortsListed rows nports) (hsize : nports < 2 ^ 31)
    (hd : d.idev = storeRows rows (List.replicate nports {})) (speed : UInt32) :
    usbipVhciGetFreePort d speed
      = returned ((leastFree rows (hubOfSpeed speed)).map (· % 2 ^ 8)) := by
  rcases freeEntry_eq hports hd speed with ⟨hnone, hfree⟩ | ⟨r, hr, hsome, hfree⟩
  · rw [usbipVhciGetFreePort, hfree, hnone]
    rfl
  · have hlt : r.port < 2 ^ 31 := lt_trans (hports.lt r hr) hsize
    rw [usbipVhciGetFreePort, hfree, hsome]
    exact congrArg Int.ofNat (port_entry hlt)

/-- The number of ports is an `int`. -/
theorem getNports_lt (u : Udev) : getNports u < 2 ^ 31 := by
  have hint : ∀ n : ℤ, n.bmod (2 ^ 32) < 2 ^ 31 := by
    intro n
    have := @Int.bmod_lt n (2 ^ 32) (by omega)
    omega
  unfold getNports
  split
  · omega
  · unfold strtoulInt
    split
    · omega
    · exact hint _

/-- The list has an entry for every port that the kernel has. -/
theorem driverOpen_nports {lib lib' : Lib}
    (hopen : usbipVhciDriverOpen u lib = some (true, lib')) (hd : lib'.vhciDriver = some d) :
    d.nports = (getNports u).toNat := by
  cases usbipVhciDriverOpen_spec hopen with
  | opened _ _ hlist =>
    obtain rfl := Option.some.inj hd
    simpa [Driver.nports] using (refresh_keeps hlist).length

/-- **The cached list** is made of the rows of the kernel. -/
theorem driverOpen_lists {lib lib' : Lib} {tables : List StatusTable}
    (hopen : usbipVhciDriverOpen u lib = some (true, lib')) (hd : lib'.vhciDriver = some d)
    (htables : u.Lists tables) (hports : ∀ r ∈ rowsOf tables, r.port < d.nports) :
    d.idev = storeRows (rowsOf tables) (List.replicate d.nports {}) ∧ d.nports < 2 ^ 31 := by
  have hnports := driverOpen_nports hopen hd
  cases usbipVhciDriverOpen_spec hopen with
  | @opened st hpos hcontrollers hlist =>
    obtain rfl := Option.some.inj hd
    replace hnports : st.idev.length = (getNports u).toNat := hnports
    have hlt := getNports_lt u
    have hcount : (getNcontrollers u).toNat = tables.length := by
      unfold getNcontrollers at hcontrollers ⊢
      split_ifs at hcontrollers ⊢
      · rw [htables.scandir]
        rfl
      · omega
    have hrange : ∀ r ∈ rowsOf tables, r.port < st.idev.length := hports
    have hreads := refresh_lists (i := 0)
      { idev := List.replicate (getNports u).toNat {}
        ledger := lib.withContext.withDevice.ledger }
      (fun j table hj => by simpa using htables.status j table hj)
      (by simpa [← hnports] using hrange) (by simp; omega)
    rw [hcount] at hlist
    rw [hlist] at hreads
    have hidev := hreads.idev_eq
    refine ⟨?_, ?_⟩
    · show st.idev = storeRows (rowsOf tables) (List.replicate st.idev.length {})
      rw [hnports]
      exact hidev
    · show st.idev.length < 2 ^ 31
      rw [hnports]
      omega

/-- **Opening the driver succeeds** if all calls do and the tables are those of the kernel. -/
theorem driverOpen_of_lists {tables : List StatusTable}
    (hcalls : u.udevNew = true ∧ u.hcDevice = true ∧ u.calloc = true ∧ u.parent = true)
    (hn : getNports u = nports) (hpos : 0 < nports) (htables : u.Lists tables) (hne : tables ≠ [])
    (hlookup : ∀ k busid, u.usbDevice k busid = true)
    (hports : PortsListed (rowsOf tables) nports) (lib : Lib) :
    ∃ lib' d, usbipVhciDriverOpen u lib = some (true, lib') ∧ lib'.vhciDriver = some d ∧
      d.nports = nports := by
  obtain ⟨hnew, hdevice, hcalloc, hparent⟩ := hcalls
  have hlen : 0 < tables.length := List.length_pos_of_ne_nil hne
  have hcontrollers : getNcontrollers u = tables.length := by
    rw [getNcontrollers, if_pos hparent, htables.scandir]
  have hlt := getNports_lt u
  have hreads := refresh_lists (i := 0)
    { idev := List.replicate nports {}, ledger := lib.withContext.withDevice.ledger }
    (fun j table hj => by simpa using htables.status j table hj)
    (by simpa using hports.lt) (by simp; omega)
  obtain ⟨st, hrefresh⟩ := hreads.of_lookups hlookup
  rw [hrefresh] at hreads
  have hidev := hreads.idev_eq
  have hopen : usbipVhciDriverOpen u lib = some (true,
      { lib.withContext.withDevice with
        vhciDriver := some
          { hcDevice := lib.withContext.ledger.acquire.1
            ncontrollers := tables.length
            idev := st.idev }
        ledger := st.ledger }) := by
    have hrefresh' : refreshImportedDeviceList u tables.length 0
        { idev := List.replicate nports ({} : ImportedDevice)
          ledger := lib.ledger.acquire.2.acquire.2 } = some (true, st) := hrefresh
    rw [usbipVhciDriverOpen, if_neg (by simp [hnew])]
    dsimp only
    rw [if_neg (by simp [hdevice]), hn, hcontrollers, if_neg (by omega),
      if_neg (by simp [hcalloc]), if_neg (by omega), Int.toNat_natCast, Int.toNat_natCast,
      hrefresh']
    rfl
  refine ⟨_, _, hopen, rfl, ?_⟩
  show st.idev.length = nports
  simp [hidev]

/-- The port chosen is the smallest one that is listed as free on the hub of the speed, -1 if there
is none, and its number is the one written to the kernel. -/
def ChoosesListed (d : Driver) (rows : List StatusRow) (speed : UInt32) : Prop :=
  usbipVhciGetFreePort d speed = returned (leastFree rows (hubOfClass speed)) ∧
  ∀ p, leastFree rows (hubOfClass speed) = some p → ∀ sockfd, ∃ rest,
    (attempt d sockfd speed).buff = Nat.toDigits 10 p ++ ' ' :: rest

/-- The smallest free port of the hub has a number of eight bits.  `USB_SPEED_SUPER_PLUS` is looked
for on the wrong hub; there the number found has to be that of the right port by chance. -/
def PortFits (rows : List StatusRow) (speed : UInt32) : Prop :=
  if speed = Speed.superPlus then
    (leastFree rows .super = none ∧ leastFree rows .high = none) ∨
      ∃ p, leastFree rows .high = some p ∧ leastFree rows .super = some (p % 2 ^ 8)
  else ∀ p, leastFree rows (hubOfClass speed) = some p → p < 2 ^ 8

/-- The first number in the text is that of the port. -/
theorem buff_attempt {p : ℕ} (hp : p < 2 ^ 8) {speed : UInt32}
    (h : usbipVhciGetFreePort d speed = p) (sockfd : ℤ) :
    ∃ rest, (attempt d sockfd speed).buff = Nat.toDigits 10 p ++ ' ' :: rest := by
  have hport : (attempt d sockfd speed).port.toNat = p := by
    show (UInt8.ofInt (usbipVhciGetFreePort d speed)).toNat = p
    rw [h, toNat_uint8_ofInt, Nat.mod_eq_of_lt hp]
  exact ⟨_, by rw [Attach.buff, hport, List.append_assoc, List.append_assoc]; rfl⟩

/-- The port is the right one if cutting it to eight bits gives the right one. -/
theorem choosesListed_iff_map {speed : UInt32}
    (h : usbipVhciGetFreePort d speed
      = returned ((leastFree rows (hubOfSpeed speed)).map (· % 2 ^ 8))) :
    ChoosesListed d rows speed ↔
      (leastFree rows (hubOfSpeed speed)).map (· % 2 ^ 8) = leastFree rows (hubOfClass speed) := by
  rw [ChoosesListed, h, returned_inj]
  refine and_iff_left_of_imp fun heq p hp sockfd => ?_
  rw [heq, hp] at h
  rw [hp, Option.map_eq_some_iff] at heq
  obtain ⟨q, -, rfl⟩ := heq
  exact buff_attempt (Nat.mod_lt q (by decide)) h sockfd

/-- **The exact condition** under which the port chosen is one that the kernel listed as free. -/
theorem choosesListed_iff {lib lib' : Lib} {tables : List StatusTable}
    (hopen : usbipVhciDriverOpen u lib = some (true, lib')) (hd : lib'.vhciDriver = some d)
    (htables : u.Lists tables) (hports : PortsListed (rowsOf tables) d.nports) (speed : UInt32) :
    ChoosesListed d (rowsOf tables) speed ↔ PortFits (rowsOf tables) speed := by
  obtain ⟨hidev, hsize⟩ := driverOpen_lists hopen hd htables hports.lt
  rw [choosesListed_iff_map (usbipVhciGetFreePort_eq hports hsize hidev speed), PortFits]
  split_ifs with hplus
  · have hhub : hubOfSpeed speed = .high := by rw [hplus]; rfl
    have hclass : hubOfClass speed = .super := by rw [hplus]; rfl
    rw [hhub, hclass]
    cases leastFree (rowsOf tables) .high with
    | none => simp [eq_comm]
    | some p => simp [eq_comm]
  · rw [hubOfClass_of_ne hplus]
    cases leastFree (rowsOf tables) (hubOfSpeed speed) with
    | none => simp
    | some p => simp

/-! ### Kernels with one controller -/

/-- A kernel with one controller and the given table, on which every call succeeds. -/
def kernelOf (table : StatusTable) (nports : ℕ) : Udev where
  udevNew := true
  hcDevice := true
  sysattr name :=
    if name = ['n', 'p', 'o', 'r', 't', 's'] then some (padded 10 0 nports ++ ['\n'])
    else if name = statusName 0 then some table.text
    else none
  calloc := true
  parent := true
  scandir := 1
  usbDevice _ _ := true

theorem lists_kernelOf (table : StatusTable) (nports : ℕ) :
    (kernelOf table nports).Lists [table] where
  scandir := rfl
  status i table' h := by
    cases i with
    | zero =>
      obtain rfl := Option.some.inj h
      rfl
    | succ i => cases h

theorem getNports_kernelOf (table : StatusTable) (h : nports < 2 ^ 31) :
    getNports (kernelOf table nports) = nports := by
  have hends : Ends ['\n'] := rfl
  show strtoulInt (padded 10 0 nports ++ ['\n']) = nports
  rw [strtoulInt, skipSpace_padded (by omega) (by omega),
    readNumber_padded (by omega) (by omega) 0 nports hends]
  show (store false nports).bmod (2 ^ 32) = nports
  rw [store_of_lt h]
  exact Int.bmod_eq_of_le (by omega) (by omega)

/-- The driver can be opened on such a kernel. -/
theorem driverOpen_kernelOf (table : StatusTable) (hports : PortsListed table.rows nports)
    (hpos : 0 < nports) (hlt : nports < 2 ^ 31) :
    ∃ lib' d, usbipVhciDriverOpen (kernelOf table nports) {} = some (true, lib') ∧
      lib'.vhciDriver = some d ∧ d.nports = nports :=
  driverOpen_of_lists ⟨rfl, rfl, rfl, rfl⟩ (getNports_kernelOf table hlt) hpos
    (lists_kernelOf table nports) (by simp) (fun _ _ => rfl) (by simpa [rowsOf] using hports) {}

/-- What the search for a port returns on such a kernel. -/
theorem getFreePort_kernelOf (table : StatusTable) (hports : PortsListed table.rows nports)
    (hpos : 0 < nports) (hlt : nports < 2 ^ 31) :
    ∃ lib' d, usbipVhciDriverOpen (kernelOf table nports) {} = some (true, lib') ∧
      lib'.vhciDriver = some d ∧ d.nports = nports ∧ ∀ speed, usbipVhciGetFreePort d speed
        = returned ((leastFree table.rows (hubOfSpeed speed)).map (· % 2 ^ 8)) := by
  obtain ⟨lib', d, hopen, hd, hn⟩ := driverOpen_kernelOf table hports hpos hlt
  have hrows : rowsOf [table] = table.rows := by simp [rowsOf]
  obtain ⟨hidev, -⟩ := driverOpen_lists hopen hd (lists_kernelOf table nports)
    (by rw [hn, hrows]; exact hports.lt)
  rw [hn, hrows] at hidev
  exact ⟨lib', d, hopen, hd, hn, usbipVhciGetFreePort_eq hports hlt hidev⟩

/-- A port that nothing is attached to. -/
def emptyRow (hub : HubSpeed) (port : ℕ) : StatusRow where
  hub := hub
  port := port
  status := UsbipStatus.vdevStNull
  speed := 0
  devid := 0
  sockfd := 0
  busid := ['0', '-', '0']
  busid_ne_nil := by simp
  busid_word := by simp [isSpace]

/-- A port with an imported device. -/
def usedRow (hub : HubSpeed) (port : ℕ) : StatusRow :=
  { emptyRow hub port with
    status := 6, speed := Speed.high, devid := 0x00010002, sockfd := 3, busid := ['1', '-', '1']
    busid_ne_nil := by simp
    busid_word := by simp [isSpace] }

/-- A high-speed port in use, a free one, and a free SuperSpeed port. -/
def smallTable : StatusTable where
  header := ['h', 'u', 'b']
  rows := [usedRow .high 0, emptyRow .high 1, emptyRow .super 2]
  header_line := by decide

/-- A single port, in use. -/
def fullTable : StatusTable where
  header := ['h', 'u', 'b']
  rows := [usedRow .high 0]
  header_line := by decide

/-- With the small table the port of each hub that is free is chosen. -/
theorem choosesListed_iff_smallTable :
    ∃ lib' d, usbipVhciDriverOpen (kernelOf smallTable 3) {} = some (true, lib') ∧
      lib'.vhciDriver = some d ∧ ChoosesListed d smallTable.rows Speed.high ∧
      ChoosesListed d smallTable.rows Speed.super := by
  have hports : PortsListed smallTable.rows 3 := ⟨by decide, by decide⟩
  obtain ⟨lib', d, hopen, hd, hn⟩ := driverOpen_kernelOf smallTable hports (by omega) (by omega)
  have hiff := choosesListed_iff hopen hd (lists_kernelOf smallTable 3)
    (by rw [hn]; exact hports)
  have hfits : ∀ speed, speed ≠ Speed.superPlus → PortFits (rowsOf [smallTable]) speed := by
    intro speed hplus
    rw [PortFits, if_neg hplus]
    intro p hp
    obtain ⟨⟨r, hr, -, rfl⟩, -⟩ := leastFree_eq_some_iff.mp hp
    have hlt := hports.lt r hr
    omega
  exact ⟨lib', d, hopen, hd, (hiff Speed.high).mpr (hfits _ (by decide)),
    (hiff Speed.super).mpr (hfits _ (by decide))⟩

/-- Of 257 high-speed ports only the last one is free. -/
def largeTable : StatusTable where
  header := ['h', 'u', 'b']
  rows := (List.range 256).map (usedRow .high) ++ [emptyRow .high 256]
  header_line := by decide

/-- The port 256 is free, and the port 0, which is in use, is chosen. -/
theorem not_choosesListed :
    ∃ lib' d, usbipVhciDriverOpen (kernelOf largeTable 257) {} = some (true, lib') ∧
      lib'.vhciDriver = some d ∧ PortsListed largeTable.rows d.nports ∧
      leastFree largeTable.rows (hubOfClass Speed.high) = some 256 ∧
      usbipVhciGetFreePort d Speed.high = 0 ∧ ¬ ChoosesListed d largeTable.rows Speed.high := by
  have hmap : largeTable.rows.map StatusRow.port = List.range 257 := by
    rw [List.range_succ]
    simp [largeTable, usedRow, emptyRow, Function.comp_def]
  have hports : PortsListed largeTable.rows 257 := by
    refine ⟨by rw [hmap]; exact List.nodup_range, fun r hr => ?_⟩
    have hmem := List.mem_map_of_mem (f := StatusRow.port) hr
    rw [hmap] at hmem
    exact List.mem_range.mp hmem
  have hleast : leastFree largeTable.rows .high = some 256 := by
    have hfilter : largeTable.rows.filter (fun r => r.Free .high) = [emptyRow .high 256] := by
      simp [largeTable, List.filter_append, List.filter_map, Function.comp_def, StatusRow.Free,
        usedRow, emptyRow, UsbipStatus.vdevStNull]
    rw [leastFree, hfilter]
    rfl
  obtain ⟨lib', d, hopen, hd, hn, hport⟩ :=
    getFreePort_kernelOf largeTable hports (by omega) (by omega)
  have hzero : usbipVhciGetFreePort d Speed.high = 0 := by
    rw [hport]
    show returned ((leastFree largeTable.rows .high).map (· % 2 ^ 8)) = 0
    rw [hleast]
    rfl
  refine ⟨lib', d, hopen, hd, by rw [hn]; exact hports, hleast, hzero, ?_⟩
  rintro ⟨heq, -⟩
  have hclass : leastFree largeTable.rows (hubOfClass Speed.high) = some 256 := hleast
  rw [hzero, hclass] at heq
  cases heq

end VirtualUSB

import VirtualUSB.Toastbox.Equiv.USBDevice

/-!
# Programs that use USB devices

* `addInterfaces_spec`: a constructor keeps the invariant, whatever it finds.
* `addInterfaces_tables`: after the first constructor the tables are those of the device.
* `usb_one_handle`: one device is opened at most, and everything goes to it.
* `usb_transfers_claimed`: with one device, every transfer is on an interface of the endpoint that
  was claimed before, and no interface is claimed twice.
* `usb_endpoint_table`: with one device, the endpoints are found that it has.
-/

namespace VirtualUSB.USBDevice

open LabelledSystem

variable {errorName : Int32 → String} {g g₀ : UsbState} {base : ℕ}

/-! ### Endpoints of a device -/

/-- The endpoints of the first altsettings, each with the number of its interface. -/
def endpointsOf (ifaces : List (List InterfaceDescriptor)) : List (UInt8 × EndpointDescriptor) :=
  ifaces.flatMap fun
    | [] => []
    | alt :: _ => alt.endpoint.map fun ep => (alt.bInterfaceNumber, ep)

/-- The numbers of the interfaces. -/
def numbersOf (ifaces : List (List InterfaceDescriptor)) : List UInt8 :=
  ifaces.filterMap fun alts => alts.head?.map (·.bInterfaceNumber)

/-- The last endpoint with the given direction and number. -/
def ownerOf (es : List (UInt8 × EndpointDescriptor)) (k : EpIdx) :
    Option (UInt8 × EndpointDescriptor) :=
  es.reverse.find? fun e => epOffset e.2.bEndpointAddress == k

theorem ownerOf_append_singleton (es : List (UInt8 × EndpointDescriptor))
    (e : UInt8 × EndpointDescriptor) (k : EpIdx) :
    ownerOf (es ++ [e]) k = if epOffset e.2.bEndpointAddress = k then some e else ownerOf es k := by
  rw [ownerOf, List.reverse_append, List.reverse_singleton, List.singleton_append, List.find?_cons]
  by_cases hk : epOffset e.2.bEndpointAddress = k
  · simp [hk]
  · rw [if_neg hk, show (epOffset e.2.bEndpointAddress == k) = false from beq_false_of_ne hk]
    rfl

/-! ### The constructor keeps the invariant -/

theorem addEndpoints_valid {i : UInt8} {eps : List EndpointDescriptor}
    {infos : EpIdx → EndpointInfo} {n : ℕ} (hi : i.toNat < n)
    (h : ∀ k, (infos k).valid = true →
      epOffset (infos k).epAddr = k ∧ (infos k).ifaceIdx.toNat < n) :
    ∀ k, (addEndpoints i infos eps k).valid = true →
      epOffset (addEndpoints i infos eps k).epAddr = k ∧
        (addEndpoints i infos eps k).ifaceIdx.toNat < n := by
  induction eps generalizing infos with
  | nil => exact h
  | cons ep eps ih =>
    refine ih fun k => ?_
    rw [addEndpoint]
    rcases eq_or_ne k (epOffset ep.bEndpointAddress) with rfl | hne
    · rw [Function.update_self]
      exact fun _ => ⟨rfl, hi⟩
    · rw [Function.update_of_ne hne]
      exact h k

/-- An interface that is not claimed is added; no call has been made with the new tables yet. -/
theorem Inv.addInterface (h : Inv base g) {i : ℕ} (hi : i ≤ g.interfaces.length)
    (alt : InterfaceDescriptor) :
    Inv g.calls.length { g with
      interfaces := g.interfaces ++ [{ bInterfaceNumber := alt.bInterfaceNumber }]
      epInfos := addEndpoints i.toUInt8 g.epInfos alt.endpoint } := by
  refine ⟨h.opened, h.through, ?_, ?_, fun pre c post heq hbase => ?_⟩
  · simpa using h.claimed
  · have hsmall : i.toUInt8.toNat ≤ i := by
      rw [Nat.toUInt8_eq, UInt8.toNat_ofNat']
      exact Nat.mod_le _ _
    rw [List.length_append, List.length_singleton]
    refine addEndpoints_valid (by omega) fun k hk => ?_
    have hvalid := h.valid k hk
    exact ⟨hvalid.1, by omega⟩
  · have hlen : g.calls.length = pre.length + (post.length + 1) := by
      rw [heq, List.length_append, List.length_cons]
    omega

/-- **A constructor** keeps the invariant, also if it throws in the middle. -/
theorem addInterfaces_spec (ifaces : List (List InterfaceDescriptor)) (i : ℕ) :
    Triple (fun g => Inv g.calls.length g ∧ i ≤ g.interfaces.length) (addInterfaces i ifaces)
      (fun _ g => Inv g.calls.length g) (fun e g => Inv g.calls.length g ∧ e ≠ .outOfRange) := by
  induction ifaces generalizing i with
  | nil => exact .pure fun _ h => h.1
  | cons alts rest ih =>
    cases alts with
    | nil => exact .throw fun _ h => ⟨h.1, nofun⟩
    | cons alt alts =>
      refine Triple.bind (.update fun g h => ?_) fun _ => ih (i + 1)
      refine ⟨h.1.addInterface h.2 alt, ?_⟩
      rw [List.length_append, List.length_singleton]
      exact Nat.succ_le_succ h.2

/-! ### The tables of one device -/

theorem addEndpoints_lookup {numbers : List UInt8} {num i : UInt8}
    (hnum : numbers[i.toNat]? = some num) (eps : List EndpointDescriptor)
    {infos : EpIdx → EndpointInfo} {es : List (UInt8 × EndpointDescriptor)}
    (h : lookupIn numbers infos = ownerOf es) :
    lookupIn numbers (addEndpoints i infos eps) = ownerOf (es ++ eps.map fun ep => (num, ep)) := by
  induction eps generalizing infos es with
  | nil => rw [List.map_nil, List.append_nil]; exact h
  | cons ep eps ih =>
    rw [List.map_cons, show es ++ (num, ep) :: eps.map (fun ep => (num, ep))
      = (es ++ [(num, ep)]) ++ eps.map fun ep => (num, ep) by simp]
    refine ih (funext fun k => ?_)
    rw [ownerOf_append_singleton]
    by_cases hk : epOffset ep.bEndpointAddress = k
    · rw [if_pos hk, lookupIn, addEndpoint, hk, Function.update_self, if_pos rfl]
      dsimp only
      rw [hnum]
      rfl
    · rw [if_neg hk, ← h, lookupIn, lookupIn, addEndpoint, Function.update_of_ne (Ne.symm hk)]

/-- What the tables say of the endpoints so far stays as it is when an interface is added. -/
theorem lookupIn_append {numbers : List UInt8} {infos : EpIdx → EndpointInfo}
    (h : ∀ k, (infos k).valid = true → (infos k).ifaceIdx.toNat < numbers.length) (num : UInt8) :
    lookupIn (numbers ++ [num]) infos = lookupIn numbers infos := by
  funext k
  rw [lookupIn, lookupIn]
  split_ifs with hvalid
  · rw [List.getElem?_append_left (h k hvalid)]
  · rfl

/-- The tables are those of the interfaces that were looked at, and nothing has happened yet. -/
structure TablesOf (ifaces : List (List InterfaceDescriptor)) (g : UsbState) : Prop where
  inv : Inv 0 g
  calls : g.calls = []
  numbers : g.interfaces.map (·.bInterfaceNumber) = numbersOf ifaces
  lookup : g.lookup = ownerOf (endpointsOf ifaces)

theorem length_numbersOf {ifaces : List (List InterfaceDescriptor)}
    (h : ∀ alts ∈ ifaces, alts ≠ []) : (numbersOf ifaces).length = ifaces.length := by
  induction ifaces with
  | nil => rfl
  | cons alts ifaces ih =>
    cases alts with
    | nil => exact absurd rfl (h [] List.mem_cons_self)
    | cons alt alts =>
      exact congrArg (· + 1) (ih fun alts' halts' => h alts' (List.mem_cons_of_mem _ halts'))

/-- One more interface. -/
theorem TablesOf.addInterface {seen : List (List InterfaceDescriptor)} (h : TablesOf seen g)
    (hseen : ∀ alts ∈ seen, alts ≠ []) (hlen : seen.length < 256) (alt : InterfaceDescriptor)
    (alts : List InterfaceDescriptor) :
    TablesOf (seen ++ [alt :: alts]) { g with
      interfaces := g.interfaces ++ [{ bInterfaceNumber := alt.bInterfaceNumber }]
      epInfos := addEndpoints seen.length.toUInt8 g.epInfos alt.endpoint } := by
  have hcount : g.interfaces.length = seen.length := by
    rw [← length_numbersOf hseen, ← h.numbers, List.length_map]
  have hidx : seen.length.toUInt8.toNat = seen.length := by
    rw [Nat.toUInt8_eq, UInt8.toNat_ofNat', Nat.mod_eq_of_lt hlen]
  refine ⟨h.calls ▸ h.inv.addInterface hcount.ge alt, h.calls, ?_, ?_⟩
  · have hall : numbersOf (seen ++ [alt :: alts]) = numbersOf seen ++ [alt.bInterfaceNumber] := by
      simp [numbersOf]
    rw [List.map_append, h.numbers, hall]
    rfl
  · rw [UsbState.lookup, List.map_append]
    have hall : endpointsOf (seen ++ [alt :: alts])
        = endpointsOf seen ++ alt.endpoint.map fun ep => (alt.bInterfaceNumber, ep) := by
      simp [endpointsOf]
    rw [hall]
    refine addEndpoints_lookup ?_ _ ?_
    · rw [hidx, ← hcount]
      simp
    · rw [List.map_singleton, lookupIn_append (fun k hk => ?_)]
      · exact h.lookup
      · rw [List.length_map]
        exact (h.inv.valid k hk).2

/-- **After the first constructor** the tables are those of the device. -/
theorem addInterfaces_tables (rest seen : List (List InterfaceDescriptor))
    (hseen : ∀ alts ∈ seen, alts ≠ [])
    (hlen : (seen ++ rest).length < 256) :
    Triple (TablesOf seen) (addInterfaces seen.length rest)
      (fun _ g => TablesOf (seen ++ rest) g ∧ ∀ alts ∈ rest, alts ≠ [])
      (fun _ _ => ∃ alts ∈ rest, alts = []) := by
  induction rest generalizing seen with
  | nil => exact .pure fun _ h => ⟨by rwa [List.append_nil], nofun⟩
  | cons alts rest ih =>
    cases alts with
    | nil => exact .throw fun _ h => ⟨[], List.mem_cons_self, rfl⟩
    | cons alt alts =>
      have hassoc : seen ++ (alt :: alts) :: rest = (seen ++ [alt :: alts]) ++ rest := by simp
      have hnext := ih (seen ++ [alt :: alts]) (fun alts' halts' => by
        rcases List.mem_append.mp halts' with hold | hnew
        · exact hseen _ hold
        · rw [List.mem_singleton.mp hnew]
          exact List.cons_ne_nil _ _) (hassoc ▸ hlen)
      rw [List.length_append, List.length_singleton, ← hassoc] at hnext
      refine Triple.bind (.update fun g hg => ?_) fun _ => hnext.weaken (fun _ h => h)
        (fun _ g h => ⟨h.1, fun alts' halts' => ?_⟩) fun _ _ ⟨alts', hmem, heq⟩ =>
          ⟨alts', List.mem_cons_of_mem _ hmem, heq⟩
      · rw [List.length_append] at hlen
        exact hg.addInterface hseen (by omega) alt alts
      · rcases List.mem_cons.mp halts' with rfl | hmem
        · exact List.cons_ne_nil _ _
        · exact h.2 alts' hmem

/-! ### Programs -/

variable {ops : List UsbOp} {results : List (Except UsbErr UsbValue)}

theorem Inv.rebase (h : Inv base g) : Inv g.calls.length g where
  opened := h.opened
  through := h.through
  claimed := h.claimed
  valid := h.valid
  ordered := fun pre c post heq hbase => by
    have hlen : g.calls.length = pre.length + (post.length + 1) := by
      rw [heq, List.length_append, List.length_cons]
    omega

theorem construct_spec (config : Except Int32 ConfigDescriptor) :
    Triple (fun g => Inv g.calls.length g) (construct errorName config)
      (fun _ g => Inv g.calls.length g) (fun e g => Inv g.calls.length g ∧ e ≠ .outOfRange) := by
  cases config with
  | error ir => exact .throw fun _ h => ⟨h, nofun⟩
  | ok configDesc =>
    exact (addInterfaces_spec configDesc.interface 0).weaken (fun _ h => ⟨h, Nat.zero_le _⟩)
      (fun _ _ h => h) fun _ _ h => h

/-- Every member function keeps the invariant; the constructor may change the tables. -/
theorem UsbOp.prog_inv (op : UsbOp) :
    Triple (fun g => ∃ base, Inv base g) (op.prog errorName) (fun _ g => ∃ base, Inv base g)
      (fun e g => (∃ base, Inv base g) ∧ e ≠ .outOfRange) := by
  by_cases hop : ∃ config, op = .construct config
  · obtain ⟨config, rfl⟩ := hop
    refine Triple.bind ((construct_spec config).weaken (fun g ⟨_, h⟩ => h.rebase)
      (fun _ _ h => ⟨_, h⟩) fun _ _ h => ⟨⟨_, h.1⟩, h.2⟩) fun _ => .pure fun _ h => h
  · rintro g ⟨base, h⟩
    have hkept : Kept g base g := ⟨h, rfl, rfl⟩
    have hspec := (op.prog_spec fun config heq => hop ⟨config, heq⟩ :
      Triple (Kept g base) (op.prog errorName) _ _) g hkept
    rcases hrun : (op.prog errorName).run g with ⟨e | a, g'⟩
    · rw [hrun] at hspec
      exact ⟨⟨base, hspec.1.inv⟩, hspec.2⟩
    · rw [hrun] at hspec
      exact ⟨base, hspec.inv⟩

/-- What a triple says of a step. -/
theorem step_of_triple {P : UsbState → Prop} {op : UsbOp} {E : UsbErr → UsbState → Prop}
    (h : Triple P (op.prog errorName) (fun _ => P) E) {g' : UsbState}
    {os : List (Except UsbErr UsbValue)} (hg : P g)
    (hs : (usbDevices errorName).step g op = some (g', os)) :
    ∃ r, os = [r] ∧ ((∃ e, r = .error e ∧ E e g') ∨ (∃ a, r = .ok a) ∧ P g') := by
  obtain ⟨rfl, rfl⟩ := Prod.mk.inj (Option.some.inj hs)
  refine ⟨_, rfl, ?_⟩
  have hrun := h g hg
  rcases hres : (op.prog errorName).run g with ⟨e | a, g'⟩
  · rw [hres] at hrun
    exact .inl ⟨e, rfl, hrun⟩
  · rw [hres] at hrun
    exact .inr ⟨⟨a, rfl⟩, hrun⟩

theorem inv_of_run (h : (usbDevices errorName).Run ops g results) : ∃ base, Inv base g := by
  refine h.state_invariant (P := fun g => ∃ base, Inv base g) ⟨0, inv_init⟩
    fun g op g' os hg _ hs => ?_
  obtain ⟨r, -, ⟨e, -, he⟩ | ⟨-, hP⟩⟩ := step_of_triple (UsbOp.prog_inv op) hg hs
  · exact he.1
  · exact hP

/-- **One device is opened at most, and everything goes to it**, whatever `USBDevice` the caller
uses: the handle is shared by all of them. -/
theorem usb_one_handle (h : (usbDevices errorName).Run ops g results) :
    ∀ c ∈ g.calls, ∀ n, c.through = some n → ∃ dev, openedBy g.calls = [(dev, n)] := by
  obtain ⟨base, hinv⟩ := inv_of_run h
  intro c hc n hn
  have hopened := hinv.opened
  rw [hinv.through c hc n hn] at hopened
  obtain ⟨⟨dev, n'⟩, hone, rfl⟩ := List.map_eq_singleton_iff.mp hopened
  exact ⟨dev, hone⟩

/-- The device of the program as libusb describes it. -/
def serialConfig : ConfigDescriptor where
  interface := [[⟨0, [⟨0x81, 8⟩]⟩], [⟨1, [⟨0x02, 32⟩, ⟨0x82, 32⟩]⟩]]
  count := by decide

/-- Two devices are constructed, and both are used. -/
def twoDevices : List UsbOp :=
  [.construct (.ok serialConfig), .construct (.ok serialConfig), .read 0 0x82 64 0 { handle := 5 },
    .write 1 0x02 3 0 { handle := 6, xferLen := 3 }]

theorem twoDevices_isSome : ((usbDevices fun _ => "").exec twoDevices).isSome = true := by
  decide +kernel

/-- The transfer to the second device goes to the first one. -/
theorem usb_one_handle_twoDevices :
    ∃ dev, openedBy (((usbDevices fun _ => "").exec twoDevices).get twoDevices_isSome).1.calls
      = [(dev, 5)] :=
  usb_one_handle (run_exec_get twoDevices_isSome) (.bulkTransfer 5 0x02 3 1) (by decide +kernel) 5
    rfl

/-! ### Programs with one device -/

/-- The variables of the file after the first constructor. -/
def afterConstruct (config : ConfigDescriptor) : UsbState :=
  ((addInterfaces 0 config.interface).run {}).2

/-- The call is not a constructor. -/
def UsbOp.Uses (op : UsbOp) : Prop :=
  ∀ config, op ≠ .construct config

variable {config : ConfigDescriptor}

theorem tablesOf_afterConstruct (halts : ∀ alts ∈ config.interface, alts ≠ []) :
    TablesOf config.interface (afterConstruct config) := by
  have hinit : TablesOf [] {} := ⟨inv_init, rfl, rfl, funext fun _ => rfl⟩
  have hspec := addInterfaces_tables config.interface [] nofun config.count {} hinit
  rw [afterConstruct]
  rcases hrun : (addInterfaces 0 config.interface).run {} with ⟨e | a, g⟩
  · rw [List.length_nil, hrun] at hspec
    obtain ⟨alts, hmem, hnil⟩ := hspec
    exact absurd hnil (halts alts hmem)
  · rw [List.length_nil, hrun] at hspec
    exact hspec.1

/-- The tables stay as they are, and nothing is looked up behind them. -/
theorem kept_of_run (halts : ∀ alts ∈ config.interface, alts ≠ []) (hops : ∀ op ∈ ops, op.Uses)
    (h : (usbDevices errorName).RunFrom (afterConstruct config) ops g results) :
    Kept (afterConstruct config) 0 g ∧ .error .outOfRange ∉ results := by
  refine (h.and_forall hops).invariant (P := fun g results =>
    Kept (afterConstruct config) 0 g ∧ .error .outOfRange ∉ results)
    ⟨⟨(tablesOf_afterConstruct halts).inv, rfl, rfl⟩, nofun⟩
    fun g results op g' os ⟨hg, hnot⟩ hop hs => ?_
  obtain ⟨r, rfl, ⟨e, rfl, he⟩ | ⟨⟨a, rfl⟩, hP⟩⟩ := step_of_triple (UsbOp.prog_spec hop.2) hg hs
  · refine ⟨he.1, fun hmem => (List.mem_append.mp hmem).elim hnot fun hnew => ?_⟩
    exact he.2 (Except.error.inj (List.mem_singleton.mp hnew)).symm
  · refine ⟨hP, fun hmem => (List.mem_append.mp hmem).elim hnot fun hnew => ?_⟩
    cases List.mem_singleton.mp hnew

/-- **Transfers of one device.**  Each interface is claimed once at most; every transfer on an
endpoint comes after the successful claim of the interface that has the endpoint (of several with
its direction and number, the last one); and the tables are never left. -/
theorem usb_transfers_claimed (halts : ∀ alts ∈ config.interface, alts ≠ [])
    (hops : ∀ op ∈ ops, op.Uses)
    (h : (usbDevices errorName).RunFrom (afterConstruct config) ops g results) :
    (claimedBy g.calls).Subperm (numbersOf config.interface) ∧
      (∀ pre c post, g.calls = pre ++ c :: post → ∀ epAddr, c.endpoint = some epAddr →
        ∃ num ep, ownerOf (endpointsOf config.interface) (epOffset epAddr) = some (num, ep) ∧
          num ∈ claimedBy pre) ∧
      .error .outOfRange ∉ results := by
  have htables := tablesOf_afterConstruct halts
  obtain ⟨hkept, hnot⟩ := kept_of_run halts hops h
  refine ⟨?_, fun pre c post heq epAddr hep => ?_, hnot⟩
  · rw [← htables.numbers, ← hkept.tables.numbers]
    exact hkept.inv.claimed.subperm.trans (List.filter_sublist.map _).subperm
  · obtain ⟨num, hmem, hof⟩ := hkept.inv.ordered pre c post heq (Nat.zero_le _) epAddr hep
    rw [UsbState.interfaceOf, hkept.tables.lookup, htables.lookup] at hof
    obtain ⟨⟨num', ep⟩, howner, rfl⟩ := Option.map_eq_some_iff.mp hof
    exact ⟨num', ep, howner, hmem⟩

/-- Two transfers on one interface, and one on the other. -/
def oneDevice : List UsbOp :=
  [.write 0 0x02 3 0 { handle := 5, xferLen := 3 }, .read 0 0x82 64 0 {}, .reset 0 0x81 {}]

theorem oneDevice_isSome :
    ((usbDevices fun _ => "").execFrom (afterConstruct serialConfig) oneDevice).isSome = true := by
  decide +kernel

theorem serialConfig_altsettings : ∀ alts ∈ serialConfig.interface, alts ≠ [] := by decide +kernel

theorem oneDevice_uses : ∀ op ∈ oneDevice, op.Uses := fun op hop config heq => by
  simp [heq, oneDevice] at hop

/-- Both interfaces are claimed once. -/
theorem usb_transfers_claimed_oneDevice :
    claimedBy (((usbDevices fun _ => "").execFrom (afterConstruct serialConfig) oneDevice).get
        oneDevice_isSome).1.calls = [1, 0] ∧
      (claimedBy (((usbDevices fun _ => "").execFrom (afterConstruct serialConfig) oneDevice).get
        oneDevice_isSome).1.calls).Subperm [0, 1] :=
  ⟨by decide +kernel, (usb_transfers_claimed serialConfig_altsettings oneDevice_uses
    (runFrom_of_execFrom (Option.some_get oneDevice_isSome).symm)).1⟩

end VirtualUSB.USBDevice

import VirtualUSB.Device.Descriptors
import VirtualUSB.Device.Equiv.System

/-!
# GetDescriptor

* `handleCmd_getDescriptor`: the handler answers with what `readDescriptor` reads.
* `descriptor_exact_iff`: it answers with the requested descriptor, and reads nothing else, exactly
  for the requests that do not ask for the device descriptor.
-/

namespace VirtualUSB

open Endian Handler Tracked

variable {info : Info} {c : Cmd} {d : Dev} {req : SetupRequest}

/-! ### The handler reads what `readDescriptor` reads -/

/-- An IN GetDescriptor request to the device. -/
def isGetDescriptor (c : Cmd) : Bool :=
  isDeviceRequest Request.getDescriptor c && c.direction == usbipDirIn

theorem isGetDescriptor_iff : isGetDescriptor c = true ↔
    isDeviceRequest Request.getDescriptor c = true ∧ c.direction = usbipDirIn := by
  simp [isGetDescriptor]

theorem isGetDescriptor.submit (h : isGetDescriptor c = true) : c.command = usbipCmdSubmit :=
  (isDeviceRequest_iff.mp (isGetDescriptor_iff.mp h).1).1

theorem isGetDescriptor.standard (h : isGetDescriptor c = true) : isStandard c = true :=
  (isDeviceRequest_iff.mp (isGetDescriptor_iff.mp h).1).2.1

theorem isGetDescriptor.request (h : isGetDescriptor c = true) :
    (getSetupRequest c).bRequest = Request.getDescriptor :=
  (isDeviceRequest_iff.mp (isGetDescriptor_iff.mp h).1).2.2.2

theorem readSelected_val (info : Info) (req : SetupRequest) :
    (readSelected info req).val.map (fun r => (r.1.map DescPtr.ptr, r.2))
      = selectDescriptor info req := by
  simp only [readSelected, selectDescriptor, SetupRequest.descType, SetupRequest.descIdx]
  cases info.stringDescs <;> cases info.deviceQualifierDesc <;>
    · dsimp only
      split_ifs <;> rfl

/-- The payload is copied from the selected descriptor. -/
theorem readDescriptor_val (info : Info) (req : SetupRequest) :
    (readDescriptor info req).val = (selectDescriptor info req).map fun r =>
      (r.1.map fun p => p.read (min r.2 req.wLength.toNat)).getD [] := by
  rw [← readSelected_val, readDescriptor, val_bind]
  rcases (readSelected info req).val with e | ⟨_ | p, n⟩ <;> rfl

theorem handleCmd_eq_getDescriptor (hget : isGetDescriptor c = true) :
    handleCmd info c = (do
      getDescriptor info c (getSetupRequest c)
      pure none) := by
  obtain ⟨hdevice, hdir⟩ := isGetDescriptor_iff.mp hget
  obtain ⟨hc, hstd, hrec, hreq⟩ := isDeviceRequest_iff.mp hdevice
  rw [handleCmd_standard hc hstd, handleCmdSubmitEP0StandardRequest, if_neg (not_not.mpr hrec),
    if_pos hdir, hreq, if_neg (by decide), if_pos rfl]

/-- The status that GetDescriptor passes to `_reply`. -/
def descriptorStatus (info : Info) (req : SetupRequest) : Int32 :=
  match selectDescriptor info req with
  | .ok (none, _) => 1
  | _ => 0

/-- **The handler answers with what `readDescriptor` reads**, in every state. -/
theorem handleCmd_getDescriptor (hget : isGetDescriptor c = true) (d : Dev) :
    (handleCmd info c).run d =
      match (readDescriptor info (getSetupRequest c)).val with
      | .error e => (.error (.thrown e), d)
      | .ok bytes => (.ok none, enqueue c (retSubmit c bytes bytes.length)
          (descriptorStatus info (getSetupRequest c)) d) := by
  rw [handleCmd_eq_getDescriptor hget, readDescriptor_val, descriptorStatus]
  have hc := isGetDescriptor.submit hget
  have hdir := (isGetDescriptor_iff.mp hget).2
  cases hsel : selectDescriptor info (getSetupRequest c) with
  | error e =>
    rw [run_bind, getDescriptor, hsel]
    rfl
  | ok r =>
    obtain ⟨p, n⟩ := r
    rw [run_bind_ok (getDescriptor_run hc hdir hsel d), run_pure]
    cases p with
    -- without a descriptor the length is zero, as `_reply` asserts
    | none =>
      have hn := selectDescriptor_none hsel
      simp [Except.map, hn]
    | some p => simp [Except.map]

/-! ### Reads of the parts -/

section Parts

variable {P : Access → Prop} (p : DescPtr)

@[simp] theorem within_wTotalLength :
    p.wTotalLength.Within P ↔ P (.byte p.desc 2) ∧ P (.byte p.desc 3) := by
  simp [DescPtr.wTotalLength, DescPtr.byte]

@[simp] theorem within_bLength : p.bLength.Within P ↔ P (.byte p.desc 0) := by
  simp [DescPtr.bLength, DescPtr.byte]

@[simp] theorem within_copy (n : ℕ) :
    (p.copy n).Within P ↔ ∀ k, k < n → P (.byte p.desc k) := by
  simp [DescPtr.copy]

@[simp] theorem within_configEntry (info : Info) (i : ℕ) :
    (configEntry info i).Within P ↔ P (.configDescs i) := by
  simp [configEntry]

@[simp] theorem within_stringEntry (descs : ℕ → Ptr) (i : ℕ) :
    (stringEntry descs i).Within P ↔ P (.stringDescs i) := by
  simp [stringEntry]

end Parts

/-! ### What it reads -/

/-- The payload is that of the requested descriptor, cut to `wLength`. -/
def Payload (info : Info) (wLength : ℕ) : Requested → Except Err (List UInt8) → Prop
  | .descriptor x, r => r = .ok ((x.ptr info).read (min (x.len info) wLength))
  | .invalid, r => ∃ e, r = .error e
  | .absent, r => r = .ok []

/-- The computation gives what was asked for and reads nothing else. -/
def Serves (info : Info) (wLength : ℕ) (want : Requested)
    (t : Tracked Access (Except Err (List UInt8))) : Prop :=
  Payload info wLength want t.val ∧ t.Within (Access.Allowed info want)

/-- The selected descriptor is the one that was asked for. -/
theorem serves_of_found {x : Desc}
    (hval : (readSelected info req).val = .ok (some ⟨x, x.ptr info⟩, x.len info))
    (hreads : (readSelected info req).Within (Access.Allowed info (.descriptor x))) :
    Serves info req.wLength.toNat (.descriptor x) (readDescriptor info req) := by
  rw [Serves, readDescriptor, val_bind, within_bind, hval]
  refine ⟨rfl, hreads, ?_⟩
  dsimp only
  rw [within_bind, within_copy]
  -- `memcpy` stays inside, since the length is that of the descriptor or less
  constructor
  · intro k hk
    exact ⟨rfl, lt_of_lt_of_le hk (min_le_left _ _)⟩
  · exact (within_pure _).mpr trivial

/-- There is no such descriptor, and nothing is read. -/
theorem serves_of_absent (hval : readSelected info req = pure (.ok (none, 0))) :
    Serves info req.wLength.toNat .absent (readDescriptor info req) := by
  rw [readDescriptor, hval]
  exact ⟨rfl, by simp⟩

/-- The index is past the end of the table, and nothing is read. -/
theorem serves_of_invalid {e : Err} (hval : readSelected info req = pure (.error e)) :
    Serves info req.wLength.toNat .invalid (readDescriptor info req) := by
  rw [readDescriptor, hval]
  exact ⟨⟨e, rfl⟩, by simp⟩

theorem serves_configuration (hinfo : info.Sized)
    (hconf : req.descType = DescriptorType.configuration) :
    Serves info req.wLength.toNat (requested info req.descType req.descIdx)
      (readDescriptor info req) := by
  have hne : ¬ DescriptorType.configuration = DescriptorType.device := by decide
  rw [requested, hconf, if_neg hne, if_pos rfl]
  by_cases hidx : req.descIdx.toNat < info.configDescsCount
  · have hsel : readSelected info req = (do
        let data ← configEntry info req.descIdx.toNat
        let p ← configEntry info req.descIdx.toNat
        let n ← p.wTotalLength
        pure (.ok (some data, n))) := by
      rw [readSelected, hconf, if_neg hne, if_pos rfl, if_neg (not_le.mpr hidx)]
    -- so the two bytes of `wTotalLength` belong to the configuration
    have hsize : 4 ≤ (Desc.configuration req.descIdx.toNat).len info :=
      hinfo (.configuration _) hidx
    rw [if_pos hidx]
    apply serves_of_found
    · rw [hsel]
      rfl
    · rw [hsel]
      simp only [within_bind, within_configEntry, within_wTotalLength, within_pure]
      exact ⟨hidx, hidx, ⟨⟨rfl, lt_of_lt_of_le (by decide) hsize⟩, rfl,
        lt_of_lt_of_le (by decide) hsize⟩, trivial⟩
  · rw [if_neg hidx]
    apply serves_of_invalid
    rw [readSelected, hconf, if_neg hne, if_pos rfl, if_pos (not_lt.mp hidx)]

theorem serves_string (hinfo : info.Sized) (hstr : req.descType = DescriptorType.string) :
    Serves info req.wLength.toNat (requested info req.descType req.descIdx)
      (readDescriptor info req) := by
  have hne : ¬ DescriptorType.string = DescriptorType.device := by decide
  have hne' : ¬ DescriptorType.string = DescriptorType.configuration := by decide
  rw [requested, hstr, if_neg hne, if_neg hne', if_pos rfl]
  cases hdescs : info.stringDescs with
  | none =>
    apply serves_of_absent
    rw [readSelected, hstr, if_neg hne, if_neg hne', if_pos rfl, hdescs]
  | some descs =>
    rw [if_neg (by simp)]
    by_cases hidx : req.descIdx.toNat < info.stringDescsCount
    · have hsel : readSelected info req = (do
          let data ← stringEntry descs req.descIdx.toNat
          let p ← stringEntry descs req.descIdx.toNat
          let n ← p.bLength
          pure (.ok (some data, n))) := by
        rw [readSelected, hstr, if_neg hne, if_neg hne', if_pos rfl, hdescs]
        exact if_neg (not_le.mpr hidx)
      have hsize : 1 ≤ (Desc.string req.descIdx.toNat).len info :=
        hinfo (.string _) ⟨by rw [hdescs]; rfl, hidx⟩
      rw [if_pos hidx]
      apply serves_of_found
      · rw [hsel, Desc.len, Desc.ptr, hdescs]
        rfl
      · rw [hsel]
        simp only [within_bind, within_stringEntry, within_bLength, within_pure]
        exact ⟨hidx, hidx, ⟨rfl, lt_of_lt_of_le (by decide) hsize⟩, trivial⟩
    · rw [if_neg hidx]
      apply serves_of_invalid
      rw [readSelected, hstr, if_neg hne, if_neg hne', if_pos rfl, hdescs]
      exact if_pos (not_lt.mp hidx)

theorem serves_deviceQualifier (hinfo : info.Sized)
    (hqual : req.descType = DescriptorType.deviceQualifier) :
    Serves info req.wLength.toNat (requested info req.descType req.descIdx)
      (readDescriptor info req) := by
  have hne : ¬ DescriptorType.deviceQualifier = DescriptorType.device := by decide
  have hne' : ¬ DescriptorType.deviceQualifier = DescriptorType.configuration := by decide
  have hne'' : ¬ DescriptorType.deviceQualifier = DescriptorType.string := by decide
  rw [requested, hqual, if_neg hne, if_neg hne', if_neg hne'', if_pos rfl]
  cases hdesc : info.deviceQualifierDesc with
  | none =>
    apply serves_of_absent
    rw [readSelected, hqual, if_neg hne, if_neg hne', if_neg hne'', if_pos rfl, hdesc]
  | some desc =>
    have hsel : readSelected info req = (do
        let n ← (DescPtr.mk .deviceQualifier desc).bLength
        pure (.ok (some ⟨.deviceQualifier, desc⟩, n))) := by
      rw [readSelected, hqual, if_neg hne, if_neg hne', if_neg hne'', if_pos rfl, hdesc]
    rw [if_neg (by simp)]
    have hsize : 1 ≤ Desc.deviceQualifier.len info := by
      apply hinfo .deviceQualifier
      rw [Desc.Present, hdesc]
      rfl
    apply serves_of_found
    · rw [hsel, Desc.len, Desc.ptr, hdesc]
      rfl
    · rw [hsel]
      simp only [within_bind, within_bLength, within_pure]
      exact ⟨⟨rfl, lt_of_lt_of_le (by decide) hsize⟩, trivial⟩

/-- **Every request but one for the device descriptor is served.** -/
theorem serves (hinfo : info.Sized) (hdev : req.descType ≠ DescriptorType.device) :
    Serves info req.wLength.toNat (requested info req.descType req.descIdx)
      (readDescriptor info req) := by
  by_cases hconf : req.descType = DescriptorType.configuration
  · exact serves_configuration hinfo hconf
  by_cases hstr : req.descType = DescriptorType.string
  · exact serves_string hinfo hstr
  by_cases hqual : req.descType = DescriptorType.deviceQualifier
  · exact serves_deviceQualifier hinfo hqual
  rw [requested, if_neg hdev, if_neg hconf, if_neg hstr, if_neg hqual]
  apply serves_of_absent
  rw [readSelected, if_neg hdev, if_neg hconf, if_neg hstr, if_neg hqual]

/-- No descriptor is selected exactly when the device does not have the one that is asked for. -/
theorem selectDescriptor_absent_iff :
    selectDescriptor info req = .ok (none, 0)
      ↔ requested info req.descType req.descIdx = .absent := by
  rw [selectDescriptor, requested]
  by_cases hdev : req.descType = DescriptorType.device
  · rw [if_pos hdev, if_pos hdev]
    simp
  rw [if_neg hdev, if_neg hdev]
  by_cases hconf : req.descType = DescriptorType.configuration
  · rw [if_pos hconf, if_pos hconf]
    by_cases hidx : req.descIdx.toNat < info.configDescsCount
    · rw [if_neg (not_le.mpr hidx), if_pos hidx]
      simp
    · rw [if_pos (not_lt.mp hidx), if_neg hidx]
      simp
  rw [if_neg hconf, if_neg hconf]
  by_cases hstr : req.descType = DescriptorType.string
  · rw [if_pos hstr, if_pos hstr]
    cases hdescs : info.stringDescs with
    | none => simp
    | some descs =>
      rw [if_neg (by simp)]
      by_cases hidx : req.descIdx.toNat < info.stringDescsCount
      · dsimp only
        rw [if_neg (not_le.mpr hidx), if_pos hidx]
        simp
      · dsimp only
        rw [if_pos (not_lt.mp hidx), if_neg hidx]
        simp
  rw [if_neg hstr, if_neg hstr]
  by_cases hqual : req.descType = DescriptorType.deviceQualifier
  · rw [if_pos hqual, if_pos hqual]
    cases hdesc : info.deviceQualifierDesc with
    | none => simp
    | some desc => simp
  · rw [if_neg hqual, if_neg hqual]
    simp

/-- `_reply` is told 1 when the device does not have the descriptor. -/
theorem descriptorStatus_of_absent (h : requested info req.descType req.descIdx = .absent) :
    descriptorStatus info req = 1 := by
  rw [descriptorStatus, selectDescriptor_absent_iff.mpr h]

theorem descriptorStatus_of_ne_absent (h : requested info req.descType req.descIdx ≠ .absent) :
    descriptorStatus info req = 0 := by
  rw [descriptorStatus]
  split
  · rename_i n hsel
    have hn := selectDescriptor_none hsel
    subst hn
    exact (h (selectDescriptor_absent_iff.mp hsel)).elim
  · rfl

/-! ### The device descriptor -/

/-- The length of the device descriptor is taken from the configuration with the index that the
request carries. -/
theorem readDescriptor_device (info : Info) (hdev : req.descType = DescriptorType.device) :
    (readDescriptor info req).val = .ok (info.deviceDesc.read
      (min (descLenConfiguration (info.configDescs req.descIdx.toNat)) req.wLength.toNat)) := by
  rw [readDescriptor, val_bind, readSelected, if_pos hdev]
  rfl

/-- So it reads this entry of the configuration table, and bytes of the configuration. -/
theorem reads_device (hdev : req.descType = DescriptorType.device) :
    (readDescriptor info req).reads
      = .configDescs req.descIdx.toNat :: .byte (.configuration req.descIdx.toNat) 2 ::
        .byte (.configuration req.descIdx.toNat) 3 ::
        (List.range (min (descLenConfiguration (info.configDescs req.descIdx.toNat))
          req.wLength.toNat)).map (.byte .device) := by
  rw [readDescriptor, readSelected, if_pos hdev]
  show _ :: _ :: _ :: (_ ++ []) = _
  rw [List.append_nil]
  rfl

/-! ### Exactly the other requests are answered as asked for -/

/-- What a GetDescriptor request asks for. -/
def wanted (info : Info) (c : Cmd) : Requested :=
  requested info (getSetupRequest c).descType (getSetupRequest c).descIdx

/-- The answer to a GetDescriptor request in every state: the requested descriptor cut to
`wLength`, an error and no reply for an entry the table does not have, an empty payload for
anything else; `_reply` is told the status 1 for the last, and 0 else. -/
structure AnsweredExactly (info : Info) (c : Cmd) : Prop where
  descriptor : ∀ x, wanted info c = .descriptor x → ∀ d, ∃ bytes,
    bytes = (x.ptr info).read (min (x.len info) (getSetupRequest c).wLength.toNat) ∧
    (handleCmd info c).run d = (.ok none, enqueue c (retSubmit c bytes bytes.length) 0 d)
  invalid : wanted info c = .invalid → ∀ d, ∃ e,
    (handleCmd info c).run d = (.error (.thrown e), d)
  absent : wanted info c = .absent → ∀ d,
    (handleCmd info c).run d = (.ok none, enqueue c (retSubmit c [] 0) 1 d)

/-- No byte outside the requested descriptor is read, and no entry past the end of a table. -/
def ReadsAllowed (info : Info) (c : Cmd) : Prop :=
  (readDescriptor info (getSetupRequest c)).Within (Access.Allowed info (wanted info c))

theorem answeredExactly_of_payload (hget : isGetDescriptor c = true)
    (h : Payload info (getSetupRequest c).wLength.toNat (wanted info c)
      (readDescriptor info (getSetupRequest c)).val) : AnsweredExactly info c := by
  constructor
  · intro x hx d
    rw [hx] at h
    refine ⟨_, rfl, ?_⟩
    rw [handleCmd_getDescriptor hget, h]
    dsimp only
    rw [descriptorStatus_of_ne_absent (by rw [← wanted, hx]; simp)]
  · intro hx d
    rw [hx] at h
    obtain ⟨e, he⟩ := h
    refine ⟨e, ?_⟩
    rw [handleCmd_getDescriptor hget, he]
  · intro hx d
    rw [hx] at h
    rw [handleCmd_getDescriptor hget, h]
    dsimp only
    rw [descriptorStatus_of_absent hx]
    rfl

/-- A request for the device descriptor is answered right when the two lengths happen to agree. -/
theorem answeredExactly_device_iff (hget : isGetDescriptor c = true)
    (hdev : (getSetupRequest c).descType = DescriptorType.device) :
    AnsweredExactly info c ↔
      min (descLenConfiguration (info.configDescs (getSetupRequest c).descIdx.toNat))
          (getSetupRequest c).wLength.toNat
        = min (descLenDevice info.deviceDesc) (getSetupRequest c).wLength.toNat := by
  have hwant : wanted info c = .descriptor .device := by
    rw [wanted, requested, if_pos hdev]
  have hval := readDescriptor_device info hdev
  constructor
  · intro h
    obtain ⟨bytes, hbytes, hrun⟩ := h.descriptor _ hwant {}
    rw [handleCmd_getDescriptor hget, hval] at hrun
    -- the two replies are the same, so their payloads are equally long
    have hreps := congrArg Dev.reps (Prod.ext_iff.mp hrun).2
    have hpay : info.deviceDesc.read _ = bytes := congrArg Cmd.payload (List.cons.inj hreps).1
    have hlen := congrArg List.length (hpay.trans hbytes)
    rwa [Ptr.length_read, Ptr.length_read] at hlen
  · intro hmin
    apply answeredExactly_of_payload hget
    rw [hwant, hval, hmin]
    rfl

/-- **GetDescriptor is exact but for the device descriptor.**  A request is answered with what it
asks for, and nothing else is read for it, if and only if it does not ask for the device
descriptor.  A request for that one is answered right only if its length and the length of the
configuration with the same index agree up to `wLength`, and reads past the end of the
configuration table unless there is a configuration with this index. -/
theorem descriptor_exact_iff (hinfo : info.Sized) (hget : isGetDescriptor c = true) :
    (AnsweredExactly info c ∧ ReadsAllowed info c ↔
        (getSetupRequest c).descType ≠ DescriptorType.device) ∧
      ((getSetupRequest c).descType = DescriptorType.device →
        (AnsweredExactly info c ↔
          min (descLenConfiguration (info.configDescs (getSetupRequest c).descIdx.toNat))
              (getSetupRequest c).wLength.toNat
            = min (descLenDevice info.deviceDesc) (getSetupRequest c).wLength.toNat) ∧
        ((∀ i, .configDescs i ∈ (readDescriptor info (getSetupRequest c)).reads →
            i < info.configDescsCount) ↔
          (getSetupRequest c).descIdx.toNat < info.configDescsCount)) := by
  refine ⟨⟨?_, ?_⟩, fun hdev => ⟨answeredExactly_device_iff hget hdev, ?_⟩⟩
  · rintro ⟨-, hreads⟩ hdev
    -- a byte of a configuration was read, which nobody asked for
    have hbyte := hreads (.byte (.configuration (getSetupRequest c).descIdx.toNat) 2)
      (by simp [reads_device hdev])
    have hwant := hbyte.1
    rw [wanted, requested, if_pos hdev] at hwant
    cases hwant
  · intro hdev
    obtain ⟨hpay, hreads⟩ := serves hinfo hdev
    exact ⟨answeredExactly_of_payload hget hpay, hreads⟩
  · rw [reads_device hdev]
    constructor
    · intro h
      exact h _ (List.mem_cons_self ..)
    · intro hidx i hi
      simp only [List.mem_cons, List.mem_map, reduceCtorEq, and_false, exists_false, or_false,
        Access.configDescs.injEq] at hi
      rwa [hi]

/-- A request for `wLength` bytes of a descriptor. -/
def getDescriptorRequest (descType descIdx : UInt8) (wLength : UInt16) : Cmd :=
  .submit 1 usbipDirIn 0 wLength.toUInt32.toInt32 [] #v[0x80, Request.getDescriptor, descIdx,
    descType, 0, 0, wLength.toUInt8, (wLength >>> 8).toUInt8]

theorem sized_minimal : Info.minimal.Sized := by
  intro x hx
  cases x with
  | deviceQualifier => cases hx
  | string i => cases hx.1
  | device => decide
  | configuration i =>
    -- all entries of the table are the same
    show (Desc.configuration 0).lenFieldEnd ≤ (Desc.configuration 0).len Info.minimal
    decide

/-- The configuration is asked for, all nine bytes of it. -/
theorem descriptor_exact_iff_configuration :
    AnsweredExactly .minimal (getDescriptorRequest DescriptorType.configuration 0 9) ∧
      ReadsAllowed .minimal (getDescriptorRequest DescriptorType.configuration 0 9) :=
  (descriptor_exact_iff sized_minimal (by decide)).1.mpr (by decide)

/-- Asked for the eighteen bytes of its device descriptor, the device sends nine. -/
theorem not_descriptor_exact :
    Info.minimal.Sized ∧
      ((handleCmd .minimal (getDescriptorRequest DescriptorType.device 0 18)).run {}).2.reps.map
        Cmd.payload = [[18, 1, 0, 2, 2, 0, 0, 16, 0x34]] ∧
      ¬ AnsweredExactly .minimal (getDescriptorRequest DescriptorType.device 0 18) := by
  refine ⟨sized_minimal, ?_, ?_⟩
  · decide
  · rw [answeredExactly_device_iff (by decide) (by decide)]
    decide

end VirtualUSB

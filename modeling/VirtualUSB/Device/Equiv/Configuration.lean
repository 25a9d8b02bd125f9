import VirtualUSB.Device.Equiv.System

/-!
# The active configuration

* `findConfig_eq_some_iff`: the search loop of SetConfiguration finds the first configuration with
  the value.
* `active_configuration`: in every run the active configuration is the one that the latest
  SetConfiguration asked for; this decides what GetStatus answers.
-/

namespace VirtualUSB

open Handler LabelledSystem

variable {info : Info} {c : Cmd} {d d' : Dev}

/-! ### The search loop -/

/-- The first configuration with the value. -/
structure IsFirstConfig (info : Info) (val : UInt8) (i : ℕ) : Prop where
  lt_count : i < info.configDescsCount
  configVal : configVal (info.configDescs i) = val
  first : ∀ j, j < i → VirtualUSB.configVal (info.configDescs j) ≠ val

theorem findConfig_eq_some_iff {val : UInt8} {i : ℕ} :
    findConfig info val = some i ↔ IsFirstConfig info val i := by
  rw [findConfig, List.find?_range_eq_some]
  constructor
  · rintro ⟨hval, hmem, hfirst⟩
    refine ⟨List.mem_range.mp hmem, beq_iff_eq.mp hval, fun j hj => ?_⟩
    simpa using hfirst j hj
  · intro h
    refine ⟨beq_iff_eq.mpr h.configVal, List.mem_range.mpr h.lt_count, fun j hj => ?_⟩
    simpa using h.first j hj

theorem findConfig_eq_none_iff {val : UInt8} :
    findConfig info val = none ↔
      ∀ i, i < info.configDescsCount → configVal (info.configDescs i) ≠ val := by
  rw [findConfig, List.find?_range_eq_none]
  simp

/-! ### Standard requests to the device -/

/-- An IN GetStatus. -/
def isGetStatus (c : Cmd) : Bool :=
  isDeviceRequest Request.getStatus c && c.direction == usbipDirIn

/-- A SetConfiguration of either direction. -/
def isSetConfiguration (c : Cmd) : Bool :=
  isDeviceRequest Request.setConfiguration c &&
    (c.direction == usbipDirIn || c.direction == usbipDirOut)

/-- The low byte of `wValue`: the configuration that a SetConfiguration asks for. -/
def configArg (c : Cmd) : UInt8 :=
  ((getSetupRequest c).wValue &&& 0x00FF).toUInt8

/-- The SetConfigurations that were handled, in order. -/
def setConfigurations (evs : List Event) : List Cmd :=
  (handledCmds evs).filter isSetConfiguration

theorem isGetStatus_iff : isGetStatus c = true ↔
    isDeviceRequest Request.getStatus c = true ∧ c.direction = usbipDirIn := by
  simp [isGetStatus]

theorem isSetConfiguration_iff : isSetConfiguration c = true ↔
    isDeviceRequest Request.setConfiguration c = true ∧
      (c.direction = usbipDirIn ∨ c.direction = usbipDirOut) := by
  simp [isSetConfiguration]

/-- The conversion to `size_t` gives zero for zero only. -/
theorem sizeOfInt32_eq_zero_iff {x : Int32} : sizeOfInt32 x = 0 ↔ x = 0 := by
  have hlt := Int32.toInt_lt x
  have hle := Int32.le_toInt x
  constructor
  · intro h
    apply Int32.toInt_inj.mp
    rw [Int32.toInt_zero]
    -- a negative length becomes at least 2^64 - 2^31
    unfold sizeOfInt32 at h
    omega
  · rintro rfl
    rfl

/-! ### What is handled -/

/-- A standard request to the device is handled by giving an answer. -/
theorem Handled.standardAnswer {x : Option Xfer} {bRequest : UInt8} (h : Handled info c d d' x)
    (hreq : isDeviceRequest bRequest c = true) :
    ∃ cfg rep status, StandardAnswer info c d.configDesc cfg rep status ∧
      d' = enqueue c rep status { d with configDesc := cfg } := by
  obtain ⟨hc, hstd, -⟩ := isDeviceRequest_iff.mp hreq
  cases h with
  | standard _ _ _ hans => exact ⟨_, _, _, hans, rfl⟩
  | out _ hstd' => exact absurd (hstd'.symm.trans hstd) (by decide)
  | inTransfer hin => exact absurd ((isInTransfer.not_standard hin).symm.trans hstd) (by decide)
  | unlink hc' => exact absurd (hc'.symm.trans hc) (by decide)

/-- It is handled exactly when it has an answer. -/
theorem exists_handled_iff {bRequest : UInt8} (hreq : isDeviceRequest bRequest c = true) :
    (∃ d' x, Handled info c d d' x) ↔
      ∃ cfg rep status, StandardAnswer info c d.configDesc cfg rep status := by
  constructor
  · rintro ⟨d', x, hh⟩
    obtain ⟨cfg, rep, status, hans, -⟩ := hh.standardAnswer hreq
    exact ⟨cfg, rep, status, hans⟩
  · rintro ⟨cfg, rep, status, hans⟩
    obtain ⟨hc, hstd, hrec, -⟩ := isDeviceRequest_iff.mp hreq
    exact ⟨_, _, .standard hc hstd hrec hans⟩

/-- The answer to a SetConfiguration. -/
theorem StandardAnswer.of_setConfiguration {cfg cfg' : Option ConfigDescPtr} {rep : Rep}
    {status : Int32} (h : StandardAnswer info c cfg cfg' rep status)
    (hreq : (getSetupRequest c).bRequest = Request.setConfiguration) :
    ∃ i, findConfig info (configArg c) = some i ∧ cfg' = some (info.configDescPtr i) ∧
      (c.direction = usbipDirIn ∨
        c.direction = usbipDirOut ∧ sizeOfInt32 c.transferBufferLength = 0) := by
  cases h with
  | getStatus _ hreq' => exact absurd (hreq.symm.trans hreq') (by decide)
  | getDescriptor _ hreq' => exact absurd (hreq.symm.trans hreq') (by decide)
  | setConfiguration hdir _ hfind => exact ⟨_, hfind, rfl, hdir⟩

/-- GetStatus is handled exactly when a configuration is active. -/
theorem exists_handled_getStatus_iff (hget : isGetStatus c = true) :
    (∃ d' x, Handled info c d d' x) ↔ d.configDesc ≠ none := by
  obtain ⟨hdevice, hdir⟩ := isGetStatus_iff.mp hget
  have hreq := (isDeviceRequest_iff.mp hdevice).2.2.2
  rw [exists_handled_iff hdevice]
  constructor
  · rintro ⟨cfg, rep, status, hans⟩ hnone
    cases hans with
    | getStatus _ _ hcfg =>
      rw [hnone] at hcfg
      cases hcfg
    | getDescriptor _ hreq' => exact absurd (hreq.symm.trans hreq') (by decide)
    | setConfiguration _ hreq' => exact absurd (hreq.symm.trans hreq') (by decide)
  · intro hsome
    obtain ⟨p, hp⟩ := Option.ne_none_iff_exists'.mp hsome
    exact ⟨_, _, _, .getStatus hdir hreq hp⟩

/-- SetConfiguration is handled exactly when a configuration has the value and no payload is
announced. -/
theorem exists_handled_setConfiguration_iff (hset : isSetConfiguration c = true) :
    (∃ d' x, Handled info c d d' x) ↔
      findConfig info (configArg c) ≠ none ∧
        (c.direction = usbipDirOut → c.transferBufferLength = 0) := by
  obtain ⟨hdevice, hdir⟩ := isSetConfiguration_iff.mp hset
  have hreq := (isDeviceRequest_iff.mp hdevice).2.2.2
  rw [exists_handled_iff hdevice, Option.ne_none_iff_exists']
  constructor
  · rintro ⟨cfg, rep, status, hans⟩
    obtain ⟨i, hfind, -, hdir'⟩ := hans.of_setConfiguration hreq
    refine ⟨⟨i, hfind⟩, fun hout => ?_⟩
    rcases hdir' with hin | ⟨-, hlen⟩
    · exact absurd (hin.symm.trans hout) (by decide)
    · exact sizeOfInt32_eq_zero_iff.mp hlen
  · rintro ⟨⟨i, hi⟩, hlen⟩
    refine ⟨_, _, _, .setConfiguration ?_ hreq hi⟩
    exact hdir.imp_right fun hout => ⟨hout, sizeOfInt32_eq_zero_iff.mpr (hlen hout)⟩

/-- Only SetConfiguration changes the active configuration. -/
theorem Handled.configDesc_cases {x : Option Xfer} (h : Handled info c d d' x) :
    (isSetConfiguration c = true ∧
        ∃ i, findConfig info (configArg c) = some i ∧
          d'.configDesc = some (info.configDescPtr i)) ∨
      (isSetConfiguration c = false ∧ d'.configDesc = d.configDesc) := by
  by_cases hset : isSetConfiguration c = true
  · have hdevice := (isSetConfiguration_iff.mp hset).1
    obtain ⟨cfg, rep, status, hans, rfl⟩ := h.standardAnswer hdevice
    obtain ⟨i, hfind, rfl, -⟩ := hans.of_setConfiguration (isDeviceRequest_iff.mp hdevice).2.2.2
    exact Or.inl ⟨hset, i, hfind, rfl⟩
  · refine Or.inr ⟨by simpa using hset, ?_⟩
    cases h with
    | standard hc hstd hrec hans =>
      cases hans with
      | setConfiguration hdir hreq =>
        have hdevice := isDeviceRequest_iff.mpr ⟨hc, hstd, hrec, hreq⟩
        exact (hset (isSetConfiguration_iff.mpr ⟨hdevice, hdir.imp_right And.left⟩)).elim
      | _ => rfl
    | _ => rfl

/-! ### Runs -/

/-- The active configuration after some SetConfigurations: the first one with the value of the
latest of them. -/
def ActiveAfter (info : Info) (sets : List Cmd) (cfg : Option ConfigDescPtr) :
    Prop :=
  match sets.getLast? with
  | none => cfg = none
  | some c => ∃ i, cfg = some (info.configDescPtr i) ∧ IsFirstConfig info (configArg c) i

theorem ActiveAfter.none_iff {sets : List Cmd} {cfg : Option ConfigDescPtr}
    (h : ActiveAfter info sets cfg) :
    cfg = none ↔ sets = [] := by
  unfold ActiveAfter at h
  rw [← List.getLast?_eq_none_iff]
  cases hlast : sets.getLast? with
  | none =>
    rw [hlast] at h
    exact iff_of_true h rfl
  | some c =>
    rw [hlast] at h
    obtain ⟨i, rfl, -⟩ := h
    exact iff_of_false (Option.some_ne_none _) (Option.some_ne_none c)

theorem setConfigurations_append (evs evs' : List Event) :
    setConfigurations (evs ++ evs') = setConfigurations evs ++ setConfigurations evs' := by
  simp [setConfigurations]

/-- What a single critical section does to the active configuration. -/
theorem DevStep.activeAfter {op : Op} {ev : Event} {evs : List Event}
    (h : DevStep info d op d' ev) (hd : ActiveAfter info (setConfigurations evs) d.configDesc) :
    ActiveAfter info (setConfigurations (evs ++ [ev])) d'.configDesc := by
  rw [setConfigurations_append]
  cases h with
  -- only a handled command adds to the SetConfigurations
  | @handle c cs _ x _ _ hh =>
    rcases hh.configDesc_cases with ⟨hset, i, hfind, hcfg⟩ | ⟨hset, hcfg⟩
    · have hlast : setConfigurations [.handled c (unlinkTarget d c) x] = [c] := by
        simp [setConfigurations, handledCmds, hset]
      rw [hlast, ActiveAfter, List.getLast?_concat]
      exact ⟨i, hcfg, findConfig_eq_some_iff.mp hfind⟩
    · have hnone : setConfigurations [.handled c (unlinkTarget d c) x] = [] := by
        simp [setConfigurations, handledCmds, hset]
      rw [hnone, List.append_nil, hcfg]
      exact hd
  | fail err =>
    have hcfg : (d.fail err).configDesc = d.configDesc := by
      unfold Dev.fail
      split_ifs <;> rfl
    rw [hcfg]
    exact (List.append_nil (setConfigurations evs)).symm ▸ hd
  | _ => exact (List.append_nil (setConfigurations evs)).symm ▸ hd

/-- The two bytes of GetStatus are a little-endian word of one bit. -/
theorem statusBytes_eq (p : ConfigDescPtr) :
    statusBytes p = [if selfPowered p.desc then 1 else 0, 0] := by
  unfold statusBytes
  split_ifs <;> rfl

/-- **The active configuration over whole runs.**  In every reachable state it is null exactly if no
SetConfiguration was handled, and otherwise the first configuration with the value of the latest
one.  There, GetStatus is answered with the self-powered bit of this configuration and fails exactly
if there is none, and SetConfiguration fails exactly if no configuration has the value, or if it is
OUT and announces a payload. -/
theorem active_configuration {is : List Op} {evs : List Event} (h : (device info).Run is d evs) :
    (d.configDesc = none ↔ setConfigurations evs = []) ∧
      (∀ c, (setConfigurations evs).getLast? = some c →
        ∃ i, d.configDesc = some (info.configDescPtr i) ∧ IsFirstConfig info (configArg c) i) ∧
      (∀ c, isGetStatus c = true →
        (∀ p, d.configDesc = some p → (handleCmd info c).run d = (.ok none,
          enqueue c (retSubmit c [if selfPowered p.desc then 1 else 0, 0] 2) 0 d)) ∧
        ((∃ e, (handleCmd info c).run d = (.error (.thrown e), d)) ↔ d.configDesc = none)) ∧
      ∀ c, isSetConfiguration c = true →
        ((∃ e, (handleCmd info c).run d = (.error (.thrown e), d)) ↔
          (∀ i, i < info.configDescsCount → configVal (info.configDescs i) ≠ configArg c) ∨
            c.direction = usbipDirOut ∧ c.transferBufferLength ≠ 0) := by
  obtain ⟨hwf, hactive⟩ := run_induction
    (P := fun d evs => ActiveAfter info (setConfigurations evs) d.configDesc) .init rfl
    (fun _ _ _ _ _ _ hP _ hs => hs.activeAfter hP) h
  refine ⟨hactive.none_iff, fun c hc => ?_, fun c hget => ⟨fun p hp => ?_, ?_⟩, fun c hset => ?_⟩
  · rw [ActiveAfter, hc] at hactive
    exact hactive
  · obtain ⟨hdevice, hdir⟩ := isGetStatus_iff.mp hget
    obtain ⟨hc, hstd, hrec, hreq⟩ := isDeviceRequest_iff.mp hdevice
    have hans : StandardAnswer info c d.configDesc d.configDesc
        (retSubmit c (statusBytes p) 2) 0 := .getStatus hdir hreq hp
    rw [← statusBytes_eq]
    exact (Handled.standard hc hstd hrec hans).run hwf.inSubmits
  · rw [handleCmd_throws_iff hwf.inSubmits, exists_handled_getStatus_iff hget, not_not]
  · rw [handleCmd_throws_iff hwf.inSubmits, exists_handled_setConfiguration_iff hset,
      ← findConfig_eq_none_iff, not_and_or, not_not, Classical.not_imp]

/-- A bus-powered configuration with the value 1 and a self-powered one with the value 2. -/
def twoConfigurations : Info :=
  { Info.minimal with
    configDescs := fun i k =>
      [9, 2, 9, 0, 0, i.toUInt8 + 1, 0, if i = 0 then 0x80 else 0xC0, 50].getD k 0
    configDescsCount := 2 }

/-- An OUT SetConfiguration with the value 2. -/
def setConfigurationRequest : Cmd :=
  .submit 1 usbipDirOut 0 0 [] #v[0x00, Request.setConfiguration, 2, 0, 0, 0, 0, 0]

/-- An IN GetStatus. -/
def getStatusRequest : Cmd :=
  .submit 2 usbipDirIn 0 2 [] getStatusSetup

/-- The second configuration becomes the active one, and GetStatus answers that it is
self-powered. -/
theorem active_configuration_setConfiguration :
    ∃ d evs, (device twoConfigurations).Run [.arrive setConfigurationRequest, .handle] d evs ∧
      (∃ i, d.configDesc = some (twoConfigurations.configDescPtr i) ∧
        IsFirstConfig twoConfigurations 2 i) ∧
      (handleCmd twoConfigurations getStatusRequest).run d
        = (.ok none, enqueue getStatusRequest (retSubmit getStatusRequest [1, 0] 2) 0 d) := by
  have hrun : (device twoConfigurations).Run [.arrive setConfigurationRequest, .handle] _ _ :=
    run_exec_get (by decide)
  obtain ⟨-, hlatest, hstatus, -⟩ := active_configuration hrun
  exact ⟨_, _, hrun, hlatest setConfigurationRequest (by decide),
    (hstatus getStatusRequest (by decide)).1 (twoConfigurations.configDescPtr 1) rfl⟩

end VirtualUSB

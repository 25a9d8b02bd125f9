import VirtualUSB.Device.Descriptors
import VirtualUSB.Device.Equiv.System

/-!
# How long replies are

`Bounded c r` says that the reply `r` gives the host no more than the SUBMIT `c` asked for.  The
device does not always keep to it: GetStatus looks at neither limit, GetDescriptor at `wLength`
only, and a negative `transfer_buffer_length` turns into a huge size.  `Fits` is the condition on a
critical section under which no oversized reply is enqueued.

* `allBounded_iff_fits`: in a run all replies are bounded exactly when all critical sections fit.
* `not_bounded`: a GetStatus with `wLength = 1` is answered with two bytes.
* `Answer.lengthFits`: the length a reply announces is the length of its payload, for IN transfers
  whose `transfer_buffer_length` is not negative.
-/

namespace VirtualUSB

open Endian Handler LabelledSystem GreedyMatch

variable {info : Info} {c : Cmd} {d d' : Dev} {e : EpIdx}

/-! ### Lengths -/

@[simp] theorem repActualLength_retSubmit (c : Cmd) (p : List UInt8) (n : ℕ) :
    repActualLength (retSubmit c p n) = Int32.ofNat n := by
  simp [repActualLength, retSubmit]

@[simp] theorem payloadLen_retSubmit (c : Cmd) (p : List UInt8) (n : ℕ) :
    (retSubmit c p n).payloadLen = p.length := rfl

theorem sizeOfInt32_pos_of_neg {x : Int32} (h : x.toInt < 0) : 0 < sizeOfInt32 x := by
  have hle := Int32.le_toInt x
  rw [sizeOfInt32]
  omega

/-- The bytes a request has room for. -/
def Cmd.room (c : Cmd) : ℕ := c.transferBufferLength.toInt.toNat

/-- `serve` sends as many bytes as there are, up to the size that was asked for. -/
theorem length_serve (c : Cmd) (x : Data) :
    (serve c x).1.2.payloadLen = min (sizeOfInt32 c.transferBufferLength) x.unsent.length := by
  have hlen : x.unsent.length = x.len - x.off := List.length_drop
  rw [serve, payloadLen_retSubmit, List.length_take, hlen]
  omega

/-! ### The bound on a reply -/

/-- The reply gives an IN SUBMIT at most what it asked for: `max(0, transfer_buffer_length)` bytes,
and at most `wLength` for an endpoint-0 standard request. -/
def Bounded (c : Cmd) (r : Rep) : Prop :=
  c.command = usbipCmdSubmit → c.direction = usbipDirIn →
    (repActualLength r).toInt ≤ max 0 c.transferBufferLength.toInt ∧
      (r.payloadLen : ℤ) ≤ max 0 c.transferBufferLength.toInt ∧
      (isStandard c = true → (repActualLength r).toInt ≤ (getSetupRequest c).wLength.toNat ∧
        r.payloadLen ≤ (getSetupRequest c).wLength.toNat)

instance (c : Cmd) (r : Rep) : Decidable (Bounded c r) :=
  inferInstanceAs (Decidable (_ → _ → _ ∧ _ ∧ (_ → _ ∧ _)))

/-- A small number of bytes is bounded by the room of the request. -/
theorem bounded_retSubmit_iff {p : List UInt8} {n : ℕ} (hc : c.command = usbipCmdSubmit)
    (hdir : c.direction = usbipDirIn) (hp : p.length = n) (hn : n < 2 ^ 31) :
    Bounded c (retSubmit c p n) ↔
      n ≤ c.room ∧ (isStandard c = true → n ≤ (getSetupRequest c).wLength.toNat) := by
  unfold Bounded Cmd.room
  rw [repActualLength_retSubmit, payloadLen_retSubmit, Int32.toInt_ofNat_of_lt hn, hp]
  simp only [hc, hdir, forall_const]
  constructor
  · rintro ⟨h, -, hstd⟩
    exact ⟨by omega, fun hs => (hstd hs).2⟩
  · rintro ⟨h, hstd⟩
    exact ⟨by omega, by omega, fun hs => ⟨by have := hstd hs; omega, hstd hs⟩⟩

theorem bounded_of_out {r : Rep} (h : c.direction = usbipDirOut) : Bounded c r := by
  intro _ hin
  exact absurd (h.symm.trans hin) (by decide)

theorem bounded_of_unlink {r : Rep} (h : c.command = usbipCmdUnlink) : Bounded c r := by
  intro hsub
  exact absurd (h.symm.trans hsub) (by decide)

/-! ### IN transfers -/

/-- No request with a negative length gets any of `n` bytes that are given to the requests in
order. -/
def RequestsFit : List Cmd → ℕ → Prop
  | [], _ => True
  | c :: cs, n => (c.transferBufferLength.toInt < 0 → n = 0) ∧ RequestsFit cs (n - c.room)

theorem requestsFit_zero (cs : List Cmd) : RequestsFit cs 0 := by
  induction cs with
  | nil => trivial
  | cons c cs ih => exact ⟨fun _ => rfl, by simpa using ih⟩

/-- The answer to one request is bounded unless its length is negative and there is data. -/
theorem bounded_serve_iff (hin : isInTransfer e c = true) (x : Data) :
    Bounded c (serve c x).1.2 ↔ (c.transferBufferLength.toInt < 0 → x.unsent.length = 0) := by
  obtain ⟨hc, hdir⟩ := isInTransfer.submit hin
  have hstd : ¬ isStandard c = true := by simp [isInTransfer.not_standard hin]
  have hlen := length_serve c x
  by_cases hneg : c.transferBufferLength.toInt < 0
  · have hsize := sizeOfInt32_pos_of_neg hneg
    constructor
    · intro hb _
      obtain ⟨-, hpay, -⟩ := hb hc hdir
      omega
    · intro h
      have hzero : min (sizeOfInt32 c.transferBufferLength) (x.len - x.off) = 0 := by
        have hun : x.unsent.length = x.len - x.off := List.length_drop
        have := h hneg
        omega
      simp only [serve, hzero]
      rw [bounded_retSubmit_iff hc hdir (by simp) (by omega)]
      exact ⟨Nat.zero_le _, fun _ => Nat.zero_le _⟩
  · have hsize := sizeOfInt32_of_nonneg (not_lt.mp hneg)
    have hlt := Int32.toInt_lt c.transferBufferLength
    have hun : x.unsent.length = x.len - x.off := List.length_drop
    simp only [serve]
    rw [bounded_retSubmit_iff hc hdir (by rw [List.length_take]; omega) (by omega)]
    simp only [hstd, hneg, false_imp_iff, and_true, iff_true, Cmd.room, Bool.false_eq_true]
    omega

/-- Draining one item gives bounded answers exactly when the requests fit it. -/
theorem bounded_drain_iff {cs : List Cmd} (hin : ∀ c ∈ cs, isInTransfer e c = true) (x : Data) :
    (∀ p ∈ (drain serve cs [x]).1, Bounded p.1 p.2) ↔ RequestsFit cs x.unsent.length := by
  induction cs generalizing x with
  | nil => simp [RequestsFit]
  | cons c cs ih =>
    have hin' : ∀ c' ∈ cs, isInTransfer e c' = true :=
      fun c' hc' => hin c' (List.mem_cons_of_mem _ hc')
    have hun : x.unsent.length = x.len - x.off := List.length_drop
    rw [drain_cons]
    simp only [List.forall_mem_cons, RequestsFit]
    rw [show (serve c x).1.1 = c from rfl, bounded_serve_iff (hin c (List.mem_cons_self ..)) x]
    refine and_congr_right fun hneg => ?_
    -- what is left of the item after the first answer
    have hroom : x.unsent.length - min (sizeOfInt32 c.transferBufferLength) (x.len - x.off)
        = x.unsent.length - c.room := by
      by_cases hlt : c.transferBufferLength.toInt < 0
      · have := hneg hlt
        omega
      · rw [sizeOfInt32_of_nonneg (not_lt.mp hlt), Cmd.room]
        omega
    rw [← hroom]
    simp only [serve]
    split_ifs with hend
    · rw [show x.unsent.length - min (sizeOfInt32 c.transferBufferLength) (x.len - x.off) = 0
        by omega]
      simpa using requestsFit_zero cs
    · rw [Option.toList_some, List.append_nil, ih hin']
      have hlen : (Data.unsent { x with
          off := x.off + min (sizeOfInt32 c.transferBufferLength) (x.len - x.off) }).length
          = x.unsent.length - min (sizeOfInt32 c.transferBufferLength) (x.len - x.off) := by
        simp only [Data.unsent, List.length_drop]
        omega
      rw [hlen]

/-! ### Standard requests -/

/-- A GetDescriptor request asks for as many bytes as the length field of its descriptor makes of
it.  The device descriptor is measured with the field of a configuration. -/
structure DescriptorFits (info : Info) (req : SetupRequest) (room : ℕ) : Prop where
  device : req.descType = DescriptorType.device →
    min (descLenConfiguration (info.configDescs req.descIdx.toNat)) req.wLength.toNat ≤ room
  configuration : req.descType = DescriptorType.configuration →
    req.descIdx.toNat < info.configDescsCount →
      min (descLenConfiguration (info.configDescs req.descIdx.toNat)) req.wLength.toNat ≤ room
  string : req.descType = DescriptorType.string → ∀ descs, info.stringDescs = some descs →
    req.descIdx.toNat < info.stringDescsCount →
      min (descLenString (descs req.descIdx.toNat)) req.wLength.toNat ≤ room
  deviceQualifier : req.descType = DescriptorType.deviceQualifier →
    ∀ desc, info.deviceQualifierDesc = some desc →
      min (descLenDeviceQualifier desc) req.wLength.toNat ≤ room

/-- The descriptor that is selected is one of these, or there is nothing to send. -/
theorem descriptorFits_iff {req : SetupRequest} {room : ℕ} :
    DescriptorFits info req room ↔
      ∀ p n, selectDescriptor info req = .ok (p, n) → min n req.wLength.toNat ≤ room := by
  constructor
  · intro h p n hsel
    unfold selectDescriptor at hsel
    dsimp only at hsel
    have hok : ∀ {p' : Option Ptr} {m : ℕ},
        (Except.ok (p', m) : Except Err (Option Ptr × ℕ)) = .ok (p, n) → m = n :=
      fun heq => (Prod.ext_iff.mp (Except.ok.inj heq)).2
    split at hsel
    · next hdevice => exact hok hsel ▸ h.device hdevice
    · split at hsel
      · next hcfg =>
        split_ifs at hsel with hidx
        exact hok hsel ▸ h.configuration hcfg (not_le.mp hidx)
      · split at hsel
        · next hstr =>
          split at hsel
          · exact hok hsel ▸ (Nat.zero_min _).trans_le (Nat.zero_le _)
          · next descs hdescs =>
            split_ifs at hsel with hidx
            exact hok hsel ▸ h.string hstr descs hdescs (not_le.mp hidx)
        · split at hsel
          · next hqual =>
            split at hsel
            · exact hok hsel ▸ (Nat.zero_min _).trans_le (Nat.zero_le _)
            · next desc hdesc => exact hok hsel ▸ h.deviceQualifier hqual desc hdesc
          · exact hok hsel ▸ (Nat.zero_min _).trans_le (Nat.zero_le _)
  · intro h
    constructor
    · intro htype
      refine h (some info.deviceDesc) _ ?_
      unfold selectDescriptor
      exact if_pos htype
    · intro htype hidx
      refine h (some (info.configDescs req.descIdx.toNat)) _ ?_
      unfold selectDescriptor
      dsimp only
      rw [show ((req.wValue &&& 0xFF00) >>> 8).toUInt8 = DescriptorType.configuration from htype,
        if_neg (by decide), if_pos rfl]
      exact if_neg (not_le.mpr hidx)
    · intro htype descs hdescs hidx
      refine h (some (descs req.descIdx.toNat)) _ ?_
      unfold selectDescriptor
      dsimp only
      rw [show ((req.wValue &&& 0xFF00) >>> 8).toUInt8 = DescriptorType.string from htype,
        if_neg (by decide), if_neg (by decide), if_pos rfl, hdescs]
      exact if_neg (not_le.mpr hidx)
    · intro htype desc hdesc
      refine h (some desc) _ ?_
      unfold selectDescriptor
      dsimp only
      rw [show ((req.wValue &&& 0xFF00) >>> 8).toUInt8 = DescriptorType.deviceQualifier from htype,
        if_neg (by decide), if_neg (by decide), if_neg (by decide), if_pos rfl, hdesc]

/-- A GetStatus that is answered asks for two bytes, and a GetDescriptor that is answered for as
many as it gets. -/
def StandardFits (info : Info) (d : Dev) (c : Cmd) : Prop :=
  c.direction = usbipDirIn →
    (getSetupRequest c).bmRequestType &&& RequestType.recipientMask = RequestType.recipientDevice →
      ((getSetupRequest c).bRequest = Request.getStatus → d.configDesc.isSome = true →
        2 ≤ c.room ∧ 2 ≤ (getSetupRequest c).wLength.toNat) ∧
      ((getSetupRequest c).bRequest = Request.getDescriptor →
        DescriptorFits info (getSetupRequest c) c.room)

/-- The answer to a standard request is bounded exactly when the request fits. -/
theorem bounded_standard_iff (hc : c.command = usbipCmdSubmit) (hstd : isStandard c = true)
    (hrec : (getSetupRequest c).bmRequestType &&& RequestType.recipientMask
      = RequestType.recipientDevice) {cfg : Option ConfigDescPtr} {rep : Rep} {status : Int32}
    (hans : StandardAnswer info c d.configDesc cfg rep status) :
    Bounded c rep ↔ StandardFits info d c := by
  cases hans with
  | @getStatus p hdir hreq hcfg =>
    have hlen : (statusBytes p).length = 2 := by
      unfold statusBytes
      split_ifs <;> rfl
    rw [bounded_retSubmit_iff hc hdir hlen (by norm_num)]
    simp [StandardFits, hdir, hrec, hreq, hcfg, hstd, Request.getStatus, Request.getDescriptor]
  | @getDescriptor p n hdir hreq hsel =>
    have hlt := (getSetupRequest c).wLength.toNat_lt
    have hlen : ((p.map fun p => p.read (min n (getSetupRequest c).wLength.toNat)).getD []).length
        = min n (getSetupRequest c).wLength.toNat := by
      cases p with
      | none => simp [selectDescriptor_none hsel]
      | some p => simp
    rw [bounded_retSubmit_iff hc hdir hlen (by omega)]
    simp [StandardFits, descriptorFits_iff, hdir, hrec, hreq, hsel, hstd, Request.getStatus,
      Request.getDescriptor]
  | setConfiguration hdir hreq =>
    rcases hdir with hdir | ⟨hdir, -⟩
    · have hlen : ([] : List UInt8).length = 0 := rfl
      rw [bounded_retSubmit_iff hc hdir hlen (by norm_num)]
      simp [StandardFits, hreq, Request.getStatus, Request.getDescriptor, Request.setConfiguration]
    · refine iff_of_true (bounded_of_out hdir) fun hin => ?_
      exact absurd (hdir.symm.trans hin) (by decide)

/-! ### Commands that are never rejected -/

/-- An IN transfer is queued and its endpoint is drained. -/
theorem handleCmd_inTransfer_run (info : Info) (hin : isInTransfer e c = true)
    (hq : InSubmits (d.inCmds e)) :
    (handleCmd info c).run d = (.ok none, (d.pushCmd e c).drained e) := by
  obtain ⟨hc, hdir⟩ := isInTransfer.submit hin
  have hstd := isInTransfer.not_standard hin
  have hout : ¬ c.direction = usbipDirOut := by rw [hdir]; decide
  have hqueue : InSubmits ((d.pushCmd e c).inCmds e) := Dev.forall_mem_pushCmd hq ⟨hc, hdir⟩
  have hepx : (handleCmdSubmitEPX c).run d = (.ok none, (d.pushCmd e c).drained e) := by
    have hrun : (handleCmdSubmitEPXIn c).run d = (.ok (), (d.pushCmd e c).drained e) := by
      rw [handleCmdSubmitEPXIn, isInTransfer.epIdx hin]
      exact sendDataForInEndpoint_run _ hqueue
    rw [handleCmdSubmitEPX, if_neg hout, if_pos hdir, run_bind_ok hrun, run_pure]
  simp only [handleCmd, hc, ↓reduceIte]
  split_ifs with hep
  · have hstd' : standardType (getSetupRequest c) = false := by
      simpa [isStandard, hep] using hstd
    simp only [handleCmdSubmitEP0, hstd', Bool.false_eq_true, ↓reduceIte]
    rw [run_bind_ok hepx]
    rfl
  · exact hepx

/-- A standard request to the device runs `handleCmdSubmitEP0StandardRequest`. -/
theorem handleCmd_standard_run (info : Info) (hc : c.command = usbipCmdSubmit)
    (hstd : isStandard c = true) {e : Failure}
    (h : (handleCmd info c).run d = (.error e, d')) :
    (handleCmdSubmitEP0StandardRequest info c (getSetupRequest c)).run d = (.error e, d') := by
  obtain ⟨hep, htype⟩ : c.ep = 0 ∧ standardType (getSetupRequest c) = true := by
    simpa [isStandard] using hstd
  simp only [handleCmd, hc, hep, ↓reduceIte, handleCmdSubmitEP0, htype, run_bind] at h
  split at h
  · cases h
  · rename_i e' d'' hrun
    obtain ⟨rfl, rfl⟩ : e' = e ∧ d'' = d' := by simpa using h
    exact hrun

/-- A command that throws was no IN SUBMIT that does not fit. -/
theorem standardFits_of_throw (hc : c.command = usbipCmdSubmit) (hstd : isStandard c = true)
    {e : Failure} (h : (handleCmd info c).run d = (.error e, d')) : StandardFits info d c := by
  have hrun := handleCmd_standard_run info hc hstd h
  intro hdir hrec
  simp only [handleCmdSubmitEP0StandardRequest, hrec, hdir, ne_eq, not_true_eq_false,
    ↓reduceIte] at hrun
  refine ⟨fun hreq hcfg => ?_, fun hreq => descriptorFits_iff.mpr fun p n hsel => ?_⟩
  · obtain ⟨p, hp⟩ := Option.isSome_iff_exists.mp hcfg
    simp [hreq, getStatus, hp, reply_in hc hdir] at hrun
  · have hne : ¬ Request.getDescriptor = Request.getStatus := by decide
    simp only [hreq, hne, ↓reduceIte, getDescriptor, hsel] at hrun
    cases p with
    | none =>
      rw [reply_none hc (Or.inl hdir) _ (by simp [selectDescriptor_none hsel])] at hrun
      cases hrun
    | some p =>
      rw [reply_in hc hdir] at hrun
      cases hrun

/-! ### Critical sections that fit -/

/-- A SUBMIT that is handled in the state `d` gets no oversized answer: a standard request fits,
and an IN transfer with a negative length finds no data. -/
def CmdFits (info : Info) (d : Dev) (c : Cmd) : Prop :=
  c.command = usbipCmdSubmit →
    (isStandard c = true → StandardFits info d c) ∧
      ∀ e, isInTransfer e c = true → ∀ x ∈ (d.inData e).head?, RequestsFit [c] x.unsent.length

/-- The condition on a critical section under which it enqueues no oversized reply. -/
def Fits (info : Info) (d : Dev) : Op → Prop
  | .handle => d.err = none → ∀ c ∈ d.cmds.head?, CmdFits info d c
  | .write ep data => d.err = none → RequestsFit (d.inCmds (writeIdx ep)) data.length
  | _ => True

/-- All replies enqueued so far are bounded. -/
def AllBounded (d : Dev) : Prop :=
  ∀ p ∈ d.history, Bounded p.1 p.2

theorem allBounded_append {l : List (Cmd × Rep)} (h : d'.history = d.history ++ l) :
    AllBounded d' ↔ AllBounded d ∧ ∀ p ∈ l, Bounded p.1 p.2 := by
  unfold AllBounded
  rw [h]
  exact List.forall_mem_append

/-- Handling a command keeps the replies bounded exactly when the command fits. -/
theorem Handled.bounded_iff {x : Option Xfer} (hwf : d.Wf) (h : Handled info c d d' x) :
    AllBounded d' ↔ AllBounded d ∧ CmdFits info d c := by
  cases h with
  | standard hc hstd hrec hans =>
    have hnot : ∀ e, isInTransfer e c = true → False := by
      intro e he
      simp [isInTransfer.not_standard he] at hstd
    rw [allBounded_append rfl, List.forall_mem_singleton, bounded_standard_iff hc hstd hrec hans]
    refine and_congr_right fun _ => ⟨fun hfit _ => ⟨fun _ => hfit, fun e he => ?_⟩,
      fun hfit => (hfit hc).1 hstd⟩
    exact (hnot e he).elim
  | out hc hstd hdir =>
    rw [allBounded_append rfl, List.forall_mem_singleton]
    refine and_congr_right fun _ => iff_of_true (bounded_of_out hdir) fun _ => ⟨?_, fun e he => ?_⟩
    · simp [hstd]
    · have hin := (isInTransfer.submit he).2
      exact absurd (hdir.symm.trans hin) (by decide)
  | @inTransfer e hin =>
    rw [allBounded_append rfl]
    refine and_congr_right fun _ => ?_
    have hfit : CmdFits info d c ↔
        ∀ x ∈ (d.inData e).head?, RequestsFit [c] x.unsent.length := by
      refine ⟨fun h => (h (isInTransfer.submit hin).1).2 e hin, fun h _ => ⟨?_, ?_⟩⟩
      · simp [isInTransfer.not_standard hin]
      · intro e' he'
        obtain rfl := isInTransfer.unique hin he'
        exact h
    rw [hfit, Dev.pushCmd_inCmds_self]
    simp only [Dev.pushCmd]
    cases hdata : d.inData e with
    | nil => simp
    | cons x xs =>
      have hnil : d.inCmds e = [] := by
        rcases hwf.matched e with hnil | hnil
        · exact hnil
        · simp [hdata] at hnil
      rw [hnil, List.nil_append, drain_cons, drain_nil_left]
      have hserve : Bounded (serve c x).1.1 (serve c x).1.2 ↔
          (c.transferBufferLength.toInt < 0 → x.unsent.length = 0) := bounded_serve_iff hin x
      simpa [RequestsFit] using hserve
  | unlink hc =>
    rw [allBounded_append rfl, List.forall_mem_singleton]
    refine and_congr_right fun _ => iff_of_true (bounded_of_unlink hc) fun hsub => ?_
    exact absurd (hc.symm.trans hsub) (by decide)

/-- A critical section keeps the replies bounded exactly when it fits. -/
theorem DevStep.bounded_iff {op : Op} {ev : Event} (hwf : d.Wf) (h : DevStep info d op d' ev) :
    AllBounded d' ↔ AllBounded d ∧ Fits info d op := by
  cases h with
  | @handle c cs _ _ herr hcmds hh =>
    have hwf' : Dev.Wf { d with cmds := cs } := hwf.congr rfl rfl
    have hfit : Fits info d .handle ↔ CmdFits info d c := by simp [Fits, herr, hcmds]
    have hb := Handled.bounded_iff hwf' hh
    rw [hfit]
    exact hb
  | @reject c cs e herr hcmds hrun =>
    refine (and_iff_left ?_).symm
    intro _ c' hc' hsub
    obtain rfl : c = c' := by simpa [hcmds] using hc'
    refine ⟨fun hstd => ?_, fun e' he' => ?_⟩
    · have hfit : StandardFits info { d with cmds := cs } c := standardFits_of_throw hsub hstd hrun
      exact hfit
    · have hwf' : Dev.Wf { d with cmds := cs } := hwf.congr rfl rfl
      rw [handleCmd_inTransfer_run info he' (hwf'.inSubmits e')] at hrun
      cases hrun
  | @write ep data herr =>
    rw [allBounded_append (Dev.drained_history ..)]
    refine and_congr Iff.rfl ?_
    rw [Dev.pushData_inData_self, Dev.pushData_inCmds]
    have hfit : Fits info d (.write ep data) ↔
        RequestsFit (d.inCmds (writeIdx ep)) data.length := by
      simp [Fits, herr]
    rw [hfit]
    rcases hwf.matched (writeIdx ep) with hnil | hnil
    · rw [hnil]
      simp [RequestsFit]
    · rw [hnil, List.nil_append, bounded_drain_iff (hwf.inTransfer _)]
      rfl
  | refuse herr =>
    refine (and_iff_left ?_).symm
    intro hnone
    simp [hnone] at herr
  | fail => simp [AllBounded, Fits]
  | arrive => exact (and_iff_left trivial).symm
  | dequeue => exact (and_iff_left trivial).symm

/-! ### The announced length -/

/-- The reply announces the length of its payload if it is an IN RET_SUBMIT; every other reply has
no payload. -/
structure LengthFits (c : Cmd) (r : Rep) : Prop where
  announced : VirtualUSB.repCommand r = usbipRetSubmit ∧ c.direction = usbipDirIn →
    (repActualLength r).toInt = r.payloadLen
  empty : ¬ (VirtualUSB.repCommand r = usbipRetSubmit ∧ c.direction = usbipDirIn) →
    r.payloadLen = 0

/-- A RET_SUBMIT fits if its payload has the announced length for direction IN, and is empty
otherwise. -/
theorem lengthFits_retSubmit {p : List UInt8} {n : ℕ}
    (hin : c.direction = usbipDirIn → p.length = n ∧ n < 2 ^ 31)
    (hout : c.direction ≠ usbipDirIn → p = []) : LengthFits c (retSubmit c p n) where
  announced := by
    rintro ⟨-, hdir⟩
    rw [repActualLength_retSubmit, payloadLen_retSubmit, (hin hdir).1,
      Int32.toInt_ofNat_of_lt (hin hdir).2]
  empty := by
    intro hdir
    have hne : c.direction ≠ usbipDirIn := fun hd => hdir ⟨repCommand_retSubmit .., hd⟩
    rw [payloadLen_retSubmit, hout hne, List.length_nil]

theorem StandardAnswer.lengthFits {cfg cfg' : Option ConfigDescPtr} {r : Rep} {status : Int32}
    (h : StandardAnswer info c cfg cfg' r status) : LengthFits c r := by
  cases h with
  | @getStatus p hdir =>
    apply lengthFits_retSubmit
    · intro _
      unfold statusBytes
      split_ifs <;> simp
    · intro hne
      exact absurd hdir hne
  | @getDescriptor p n hdir _ hsel =>
    -- the length is at most `wLength`
    have hlt := (getSetupRequest c).wLength.toNat_lt
    apply lengthFits_retSubmit
    · intro _
      cases p with
      | none => simp [selectDescriptor_none hsel]
      | some p => exact ⟨by simp, by omega⟩
    · intro hne
      exact absurd hdir hne
  | setConfiguration =>
    apply lengthFits_retSubmit
    · intro _
      simp
    · intro _
      rfl

/-- **The announced length is the length of the payload**, for an IN RET_SUBMIT whose SUBMIT has no
negative length; an OUT RET_SUBMIT and a RET_UNLINK carry no payload. -/
theorem Answer.lengthFits {r : Rep} (h : Answer info c r)
    (hlen : c.command = usbipCmdSubmit → 0 ≤ c.transferBufferLength.toInt) : LengthFits c r := by
  cases h with
  | standard hc hstd hans => exact hans.lengthFits
  | out hc _ hdir =>
    apply lengthFits_retSubmit
    · intro hin
      exact absurd (hdir.symm.trans hin) (by decide)
    · intro _
      rfl
  | @inTransfer e hin x =>
    have hlt := Int32.toInt_lt c.transferBufferLength
    have hsize := sizeOfInt32_of_nonneg (hlen (isInTransfer.submit hin).1)
    have hserve := length_serve c x
    have hun : x.unsent.length = x.len - x.off := List.length_drop
    apply lengthFits_retSubmit
    · intro _
      rw [List.length_take]
      omega
    · intro hne
      exact absurd (isInTransfer.submit hin).2 hne
  | unlink hc =>
    constructor
    · rintro ⟨hcmd, -⟩
      rw [repCommand_retUnlink] at hcmd
      exact absurd hcmd (by decide)
    · intro _
      rfl

/-! ### Runs -/

variable {is : List Op} {evs : List Event}

/-- **Replies are bounded exactly when everything fits**: in a run every reply gives the host at
most what the SUBMIT it answers asked for if and only if every critical section of the run fits. -/
theorem allBounded_iff_fits (h : (device info).Run is d evs) :
    (∀ p ∈ d.history, Bounded p.1 p.2) ↔ (device info).RunWhere (Fits info) {} is d evs := by
  refine RunWhere.iff_of_step (I := Dev.Wf) (P := AllBounded) .init (by simp [AllBounded])
    (fun d op d' evs hwf hs => ?_) (fun d op d' evs hwf hs => ?_) h
  · obtain ⟨ev, -, hd⟩ := step_spec hwf hs
    exact hd.wf hwf
  · obtain ⟨ev, -, hd⟩ := step_spec hwf hs
    exact hd.bounded_iff hwf

/-- SetConfiguration, then a GetStatus with `wLength = 1` and `transfer_buffer_length = 1`. -/
def getStatusRun : List Op :=
  [.arrive (.submit 1 usbipDirOut 0 0 [] #v[0x00, 9, 1, 0, 0, 0, 0, 0]), .handle,
    .arrive (.submit 2 usbipDirIn 0 1 [] #v[0x80, 0, 0, 0, 0, 0, 1, 0]), .handle]

theorem getStatusRun_isSome : ((device .minimal).exec getStatusRun).isSome = true := by decide

/-- The same GetStatus with room for two bytes. -/
def roomyStatusRun : List Op :=
  [.arrive (.submit 1 usbipDirOut 0 0 [] #v[0x00, 9, 1, 0, 0, 0, 0, 0]), .handle,
    .arrive (.submit 2 usbipDirIn 0 2 [] #v[0x80, 0, 0, 0, 0, 0, 2, 0]), .handle]

theorem roomyStatusRun_isSome : ((device .minimal).exec roomyStatusRun).isSome = true := by decide

/-- All critical sections of `roomyStatusRun` fit, but not all of `getStatusRun`. -/
theorem allBounded_iff_fits_twoRuns :
    (device .minimal).RunWhere (Fits .minimal) {} roomyStatusRun
        (((device .minimal).exec roomyStatusRun).get roomyStatusRun_isSome).1
        (((device .minimal).exec roomyStatusRun).get roomyStatusRun_isSome).2 ∧
      ¬ (device .minimal).RunWhere (Fits .minimal) {} getStatusRun
        (((device .minimal).exec getStatusRun).get getStatusRun_isSome).1
        (((device .minimal).exec getStatusRun).get getStatusRun_isSome).2 := by
  constructor
  · exact (allBounded_iff_fits (run_exec_get roomyStatusRun_isSome)).mp (by decide)
  · rw [← allBounded_iff_fits (run_exec_get getStatusRun_isSome)]
    decide

/-- The device answers a GetStatus that asks for one byte with two. -/
theorem not_bounded :
    ¬ ∀ (info : Info) (is : List Op) (d : Dev) (evs : List Event), (device info).Run is d evs →
      ∀ p ∈ d.history, Bounded p.1 p.2 := by
  intro hall
  have hrun := hall .minimal _ _ _ (run_exec_get getStatusRun_isSome)
  revert hrun
  decide

end VirtualUSB

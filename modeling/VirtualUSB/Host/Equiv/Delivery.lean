import VirtualUSB.Device.Equiv.Delivery
import VirtualUSB.Device.Equiv.ReplyLength
import VirtualUSB.Host.Equiv.Commands
import VirtualUSB.Threads.Equiv.Stopping

/-!
# What the host sends reaches the client

* `returnedXfers_eq`: the calls of `read()` return exactly the `Xfer`s that the device yields.
* `payloadLen_of_mem_arrivals`: a SUBMIT that arrived carries a payload of the length it announces.
* `readZero_spec`: what a call of `read()` with a timeout of zero does, if no command it handles
  raises an error; if one does, it waits for the two threads and returns.
* `out_delivery`: the calls of `read()` return the OUT transfers, in order, and each of them is
  acknowledged once.
-/

namespace VirtualUSB

open LabelledSystem

variable {info : Info} {s s' : Sys} {evs : List SysEvent} {t : ℕ}

/-! ### What `read()` returns -/

@[simp] theorem returnedXfers_map_dev (evs : List Event) : returnedXfers (evs.map .dev) = [] := by
  simp [returnedXfers]

theorem Resets.xfers {th : Thread} {e : Err} {finished : Bool} (h : Resets s th e finished s' evs) :
    returnedXfers evs = [] ∧ VirtualUSB.xfers (devEvents evs) = [] := by
  cases h <;> exact ⟨rfl, rfl⟩

/-- `_reset` leaves a device that has an error alone. -/
theorem Resets.dev_of_err {th : Thread} {e : Err} {finished : Bool}
    (h : Resets s th e finished s' evs) (herr : s.dev.err.isSome = true) : s'.dev = s.dev := by
  cases h with
  | again => rfl
  | _ => exact if_pos herr

/-- A call that fails returns no `Xfer`. -/
theorem returnedXfers_afterReset (s : Sys) (t : ℕ) (call : Call) (finished : Bool) :
    returnedXfers (s.afterReset info t call finished).2 = [] := by
  cases finished with
  | false => rfl
  | true =>
    have hresult : ∀ x, s.failResult info call ≠ .xfer x := by
      intro x
      cases call <;> simp only [Sys.failResult, ne_eq] <;> first | (split_ifs <;> simp) | simp
    simp only [Sys.afterReset, if_true, returnedXfers]
    generalize s.failResult info call = result at hresult
    cases result with
    | xfer x => exact (hresult x rfl).elim
    | _ => rfl

/-- A client thread returns the `Xfer` that the device yields in the step. -/
theorem ClientStep.returnedXfers_eq (h : ClientStep info s t s' evs) :
    returnedXfers evs = xfers (devEvents evs) := by
  cases h with
  | @returns call result d devEvs hpc hd hans =>
    have hnil : devEvents [.returned t call result] = [] := rfl
    rw [returnedXfers_append, returnedXfers_map_dev, devEvents_append, devEvents_map_dev, hnil,
      List.append_nil, List.nil_append]
    cases hans with
    | err _ hevs => rw [hevs]; rfl
    | xfer _ hevs hnone => rw [hevs, xfers_append, hnone]; rfl
    | nullopt _ _ hnone => rw [hnone]; rfl
    | wrote _ hnone => rw [hnone]; rfl
  | sleeps hpc ht hd herr hcmds hnone => rw [returnedXfers_map_dev, devEvents_map_dev, hnone]
  | fails hpc hd hnone herr hr =>
    simp only [returnedXfers_append, returnedXfers_map_dev, hr.xfers.1, returnedXfers_afterReset,
      devEvents_append, devEvents_map_dev, devEvents_afterReset, xfers_append, hnone, hr.xfers.2]
    rfl
  | loops hpc hl =>
    rw [returnedXfers_afterReset, devEvents_afterReset]
    rfl

/-- In every step the calls of `read()` return what the device yields. -/
theorem SysStep.returnedXfers_eq {a : Action} (h : SysStep info s a s' evs) :
    returnedXfers evs = xfers (devEvents evs) := by
  cases h with
  | client hawake h => exact h.returnedXfers_eq
  | start hpc hidle h =>
    cases h with
    | fails hf hr =>
      simp only [returnedXfers_append, hr.xfers.1, returnedXfers_afterReset, devEvents_append,
        devEvents_afterReset, xfers_append, hr.xfers.2]
      rfl
    | started => rfl
  | reader hawake h =>
    cases h with
    | fails hpc hr => rw [hr.xfers.1, hr.xfers.2]
    | _ => rfl
  | recv h => cases h <;> rfl
  | writer hawake h =>
    cases h with
    | fails hpc hr => rw [hr.xfers.1, hr.xfers.2]
    | _ => rfl
  | send h => cases h <;> rfl
  | _ => rfl

/-- **The calls of `read()` return exactly the `Xfer`s that the device yields**, in every run. -/
theorem returnedXfers_eq {is : List Action} (h : (threads info).Run is s evs) :
    returnedXfers evs = xfers (devEvents evs) := by
  refine threads_induction (P := fun _ evs => returnedXfers evs = xfers (devEvents evs)) rfl ?_ h
  intro s evs a s' evs' _ hP _ hs
  rw [returnedXfers_append, devEvents_append, xfers_append, hP, hs.returnedXfers_eq]

/-- What a call of `read()` returned is the `Xfer` of an OUT transfer that arrived. -/
theorem outTransfer_of_returned {is : List Action} (h : (threads info).Run is s evs) {x : Xfer}
    (hx : x ∈ returnedXfers evs) :
    ∃ c ∈ arrivals (devEvents evs), isOutTransfer c = true ∧ x = xferOf c := by
  obtain ⟨⟨js, hdev⟩, -⟩ := device_run h
  rw [returnedXfers_eq h, xfers_eq .init hdev] at hx
  obtain ⟨c, hc, rfl⟩ := List.mem_map.mp hx
  obtain ⟨hhandled, hout⟩ := List.mem_filter.mp hc
  exact ⟨c, (handledCmds_sublist_arrivals hdev).subset hhandled, hout, rfl⟩

/-! ### The payload of the commands that arrive -/

/-- A SUBMIT in a frame has a payload of the length it announces. -/
theorem payloadLen_decodeFrame {f : List UInt8} (hf : cmdFraming.IsFrame f)
    (hsub : (decodeFrame f).command = usbipCmdSubmit) :
    (decodeFrame f).payloadLen = payloadLenOf (decodeFrame f).header := by
  have hlen : (decodeFrame f).payloadLen = f.length - headerSize := List.length_drop
  have hbody : f.length = headerSize + cmdFraming.body (f.take headerSize) := hf.2
  unfold decodeFrame at hsub hlen ⊢
  simp only [cmdFraming] at hbody
  cases hdec : decodeHeader (Header.ofBytes (f.take headerSize)) with
  | ok h =>
    simp only [hdec] at hbody hlen ⊢
    omega
  | error e =>
    -- what cannot be decoded is no SUBMIT
    simp only [hdec] at hsub
    have hzero : (0 : UInt32) = usbipCmdSubmit := hsub
    exact absurd hzero (by decide)

/-- **A SUBMIT that arrived carries a payload of the length it announces.** -/
theorem payloadLen_of_mem_arrivals {is : List Action} (h : (threads info).Run is s evs) {c : Cmd}
    (hc : c ∈ arrivals (devEvents evs)) (hsub : c.command = usbipCmdSubmit) :
    c.payloadLen = payloadLenOf c.header := by
  obtain ⟨fs, p, hfs, -, hparsed⟩ := readerInv_of_run h
  have hmem : c ∈ fs.map decodeFrame := by
    generalize s.reader = pc at hparsed
    cases hparsed with
    | push harr => rw [← harr]; exact List.mem_append_left _ hc
    | idle _ harr => rwa [← harr]
    | header _ harr => rwa [← harr]
    | payload _ _ _ harr => rwa [← harr]
    | ended _ _ harr => rwa [← harr]
  obtain ⟨f, hf, rfl⟩ := List.mem_map.mp hmem
  exact payloadLen_decodeFrame (hfs f hf) hsub

/-- An OUT transfer that arrived with a length that is not negative has a payload of less than
2^31 bytes. -/
theorem payloadLen_lt {is : List Action} (h : (threads info).Run is s evs) {c : Cmd}
    (hc : c ∈ arrivals (devEvents evs)) (hout : isOutTransfer c = true)
    (hlen : 0 ≤ c.transferBufferLength.toInt) : c.payloadLen < 2 ^ 31 := by
  obtain ⟨hsub, hdir, -⟩ := isOutTransfer.submit hout
  have hlt := Int32.toInt_lt c.transferBufferLength
  have hsize := sizeOfInt32_of_nonneg hlen
  have hpay : payloadLenOf c.header = sizeOfInt32 c.transferBufferLength := if_pos ⟨hsub, hdir⟩
  rw [payloadLen_of_mem_arrivals h hc hsub, hpay]
  omega

/-! ### `read()` with a timeout of zero -/

/-- What a call of `read()` with a timeout of zero does on a device without an error, if no command
it handles raises one. -/
inductive ReadsZero (s : Sys) (t : ℕ) : Sys → List SysEvent → Prop
  /-- No command is left, and none of those there were yields an `Xfer`. -/
  | nullopt {s' : Sys} {evs : List SysEvent} (hcmds : s'.dev.cmds = [])
      (hpopped : popped (devEvents evs) = s.dev.cmds)
      (hnone : ∀ c ∈ s.dev.cmds, isOutTransfer c = false)
      (hret : .returned t (.read .zero) .nullopt ∈ evs) (hidle : s'.clients t = .idle) :
      ReadsZero s t s' evs
  /-- The commands up to the first one that yields an `Xfer` are taken, and its `Xfer` is
  returned. -/
  | xfer {s' : Sys} {evs : List SysEvent} {pre : List Cmd} {c : Cmd}
      (hcmds : s.dev.cmds = pre ++ c :: s'.dev.cmds) (hpopped : popped (devEvents evs) = pre ++ [c])
      (hpre : ∀ c' ∈ pre, isOutTransfer c' = false) (hout : isOutTransfer c = true)
      (hret : .returned t (.read .zero) (.xfer (xferOf c)) ∈ evs) (hidle : s'.clients t = .idle) :
      ReadsZero s t s' evs

/-- What the loop of `read()` takes when it ends without an error. -/
theorem ReadOut.Done.popped_cases {d d' : Dev} {out : ReadOut} {devEvs : List Event} (hwf : d.Wf)
    (hrun : ∃ is, (device info).RunWhere (fun _ op => op = .handle) d is d' devEvs)
    (hdone : out.Done d' devEvs) (herr : d'.err = none) :
    (out = .empty ∧ d'.cmds = [] ∧ popped devEvs = d.cmds ∧
        ∀ c ∈ d.cmds, isOutTransfer c = false) ∨
      ∃ pre c, out = .xfer (xferOf c) ∧ d.cmds = pre ++ c :: d'.cmds ∧ popped devEvs = pre ++ [c] ∧
        (∀ c' ∈ pre, isOutTransfer c' = false) ∧ isOutTransfer c = true := by
  obtain ⟨is, his⟩ := hrun
  have hinner : Inner info d d' devEvs := .of_run (fun _ _ hop => by subst hop; trivial) hwf his
  have htaken := popped_append_cmds_from hwf his
  rw [hinner.arrivals, List.append_nil] at htaken
  have hhandled := popped_eq_handledCmds hwf his herr
  have hxfers := xfers_eq hwf his
  rw [← hhandled] at hxfers
  cases out with
  | empty =>
    obtain ⟨-, hcmds, hnone⟩ := hdone
    rw [hcmds, List.append_nil] at htaken
    refine .inl ⟨rfl, hcmds, htaken, ?_⟩
    rw [← htaken, hhandled]
    exact not_out_of_xfers_nil hwf his hnone
  | xfer x =>
    obtain ⟨-, evs', c, target, rfl, hnone⟩ := hdone
    have hlast : popped (evs' ++ [.handled c target (some x)]) = popped evs' ++ [c] :=
      popped_append ..
    have hfirst : xfers (evs' ++ [.handled c target (some x)]) = [x] := by
      rw [xfers_append, hnone]
      rfl
    rw [hfirst, hlast, List.filter_append, List.map_append] at hxfers
    rw [hlast, List.append_assoc, List.singleton_append] at htaken
    -- only the last command yields an `Xfer`
    have hx := xfer_eq_of_mem hwf his (List.mem_append_right _ (List.mem_singleton_self _))
    cases hout : isOutTransfer c with
    | false => simp [hout] at hx
    | true =>
      obtain rfl : x = xferOf c := by simpa [hout] using hx
      have hpre : ((popped evs').filter isOutTransfer).map xferOf = [] := by
        simpa [hout] using hxfers
      rw [List.map_eq_nil_iff, List.filter_eq_nil_iff] at hpre
      exact .inr ⟨popped evs', c, rfl, htaken.symm, hlast, by simpa using hpre, hout⟩
  | threw e =>
    rw [hdone.1] at herr
    cases herr
  | aborted => exact hdone.elim

/-- A call of `read()` with a timeout of zero is one critical section if no command it handles
raises an error, and is past its beginning otherwise. -/
theorem readZero_step {is : List Action} (h : (threads info).Run is s evs)
    (hpc : s.clients t = .entering (.read .zero)) :
    ∃ s' evs', s.step info (.client t) = some (s', evs') ∧
      (s'.dev.err = none → ReadsZero s t s' evs') ∧ ∀ call, s'.clients t ≠ .entering call := by
  have hwf := (device_run h).2
  have hstep : s.step info (.client t) = s.readCall info t .zero := by
    rw [Sys.step, client_awake_of_run h hpc, Sys.stepClient, hpc]
    rfl
  rw [hstep]
  rcases hread : readSection info s.dev with ⟨out, d, devEvs⟩
  obtain ⟨hrun, hdone⟩ := readSection_run hwf hread
  have hcases := fun herr => hdone.popped_cases hwf hrun herr
  have hidle : ∀ s' : Sys, s'.clients t = .idle → ∀ call, s'.clients t ≠ .entering call := by
    intro s' hs' call
    rw [hs']
    simp
  unfold Sys.readCall
  rw [hread]
  cases out with
  | empty =>
    refine ⟨_, _, if_pos rfl, fun herr => ?_, hidle _ (Sys.setClient_self ..)⟩
    have hdev : ((s.setDev d).setClient t .idle).dev = d := Sys.setDev_dev d
    rcases hcases hdone.1 with ⟨-, hcmds, hpopped, hnone⟩ | ⟨pre, c, hout, -⟩
    · refine .nullopt ?_ ?_ hnone ?_ (Sys.setClient_self ..)
      · exact hdev.symm ▸ hcmds
      · rw [devEvents_append, devEvents_map_dev, popped_append, hpopped]
        exact List.append_nil _
      · exact List.mem_append_right _ (List.mem_singleton_self _)
    · cases hout
  | xfer x =>
    refine ⟨_, _, rfl, fun herr => ?_, hidle _ (Sys.setClient_self ..)⟩
    have hdev : ((s.setDev d).setClient t .idle).dev = d := Sys.setDev_dev d
    rcases hcases hdone.1 with ⟨hout, -⟩ | ⟨pre, c, hout, hcmds, hpopped, hpre, hc⟩
    · cases hout
    · obtain rfl : x = xferOf c := by simpa using hout
      refine .xfer ?_ ?_ hpre hc ?_ (Sys.setClient_self ..)
      · exact hdev.symm ▸ hcmds
      · rw [devEvents_append, devEvents_map_dev, popped_append, hpopped]
        exact List.append_nil _
      · exact List.mem_append_right _ (List.mem_singleton_self _)
  | threw e =>
    refine ⟨_, _, rfl, fun herr => ?_, fun call => ?_⟩
    · -- the device has an error afterwards
      have hr := resetEnter_spec (s.setDev d) (.client t) e
      have hdev := hr.dev_of_err (by rw [Sys.setDev_dev, hdone.1]; rfl)
      rw [Sys.setDev_dev] at hdev
      have hnone : ((s.setDev d).resetEnter (.client t) e).2.1.dev.err = none := by
        rw [← herr]
        show _ = Dev.err (Sys.dev (Sys.afterReset info _ t _ _).1)
        rw [Sys.afterReset_fst]
        rfl
      rw [hdev, hdone.1] at hnone
      cases hnone
    · show (Sys.afterReset info _ t _ _).1.clients t ≠ _
      rw [Sys.afterReset_fst, Sys.setClient_self]
      split_ifs <;> simp
  | aborted => exact hdone.elim

/-- **`read()` with a timeout of zero ends** on a device without an error.  If no command it handles
raises an error, it returns `nullopt` when no command is left, or takes the commands up to the first
one that yields an `Xfer`.  If one does, the call returns after the two threads have gone. -/
theorem readZero_spec {is : List Action} (h : (threads info).Run is s evs)
    (herr : s.dev.err = none) (hpc : s.clients t = .entering (.read .zero)) :
    ∃ s' evs', s.step info (.client t) = some (s', evs') ∧
      (s'.dev.err = none → ReadsZero s t s' evs') ∧
      (s'.dev.err ≠ none →
        (threads info).Inevitable (fun _ a => a.Own) (fun s'' => s''.clients t = .idle) s') := by
  obtain ⟨s', evs', hstep, hreads, hbegun⟩ := readZero_step h hpc
  refine ⟨s', evs', hstep, hreads, fun herr' => ?_⟩
  have hs := (exists_ownRanking h).1
  have hs' := (sysStep_spec hs.wf hstep).sound hs
  have hreset : s'.flags.reset = true := by
    rw [← hs'.err]
    exact Option.isSome_iff_ne_none.mpr herr'
  have hstop : s'.Stoppable := (Sys.step_stoppable_iff hs hstep).mpr
    ⟨stoppable_of_err_none h herr, trivial, .inl trivial⟩
  have hrun' : (threads info).Run (is ++ [.client t]) s' (evs ++ evs') :=
    h.trans (.single trivial hstep)
  exact inevitable_idle hrun' hreset hstop hbegun

/-- The reply acknowledges the command: it is a RET_SUBMIT with its number that announces as many
bytes as the command carried. -/
structure Acknowledges (c : Cmd) (p : Cmd × Rep) : Prop where
  command : p.1 = c
  submit : repCommand p.2 = usbipRetSubmit
  seqnum : repSeqnum p.2 = c.seqnum
  actualLength : (repActualLength p.2).toInt = c.payloadLen

/-- **OUT delivery.**  In a run without an error the calls of `read()` return one `Xfer` for each
OUT transfer that was taken from `cmds`, in the order of arrival, with the data and the setup
request of the command, and each of these commands is acknowledged once.  A call of `read()` with a
timeout of zero ends, as `ReadsZero` says if no command it handles raises an error. -/
theorem out_delivery {is : List Action} (h : (threads info).Run is s evs) (herr : s.dev.err = none)
    (hcmds : ∀ c ∈ arrivals (devEvents evs), c.ep.toNat < 32 ∧
      (c.command = usbipCmdSubmit → 0 ≤ c.transferBufferLength.toInt)) :
    popped (devEvents evs) ++ s.dev.cmds = arrivals (devEvents evs) ∧
      List.Forall₂ Delivers ((popped (devEvents evs)).filter isOutTransfer) (returnedXfers evs) ∧
      List.Forall₂ Acknowledges ((popped (devEvents evs)).filter isOutTransfer)
        (acknowledged s.dev) ∧
      ∀ t, s.clients t = .entering (.read .zero) → ∃ s' evs',
        s.step info (.client t) = some (s', evs') ∧
          (s'.dev.err = none → ReadsZero s t s' evs') ∧
          (s'.dev.err ≠ none → (threads info).Inevitable (fun _ a => a.Own)
            (fun s'' => s''.clients t = .idle) s') := by
  obtain ⟨⟨js, hdev⟩, -⟩ := device_run h
  have htaken := popped_append_cmds hdev
  have hpopped := popped_eq_handledCmds .init hdev herr
  -- the OUT transfers that were taken arrived
  have hmem : ∀ c ∈ (popped (devEvents evs)).filter isOutTransfer,
      c ∈ arrivals (devEvents evs) ∧ isOutTransfer c = true := by
    intro c hc
    rw [List.mem_filter] at hc
    rw [← htaken]
    exact ⟨List.mem_append_left _ hc.1, hc.2⟩
  refine ⟨htaken, ?_, ?_, fun t hpc => readZero_spec h herr hpc⟩
  · rw [returnedXfers_eq h, xfers_eq .init hdev, ← hpopped, List.forall₂_map_right_iff,
      List.forall₂_same]
    intro c hc
    obtain ⟨harr, hout⟩ := hmem c hc
    exact delivers_xferOf hout (by have := (hcmds c harr).1; omega)
  · rw [acknowledged_eq hdev, ← hpopped, List.forall₂_map_right_iff, List.forall₂_same]
    intro c hc
    obtain ⟨harr, hout⟩ := hmem c hc
    have hlt := payloadLen_lt h harr hout ((hcmds c harr).2 (isOutTransfer.submit hout).1)
    refine ⟨rfl, repCommand_retSubmit .., repSeqnum_retSubmit .., ?_⟩
    rw [ackOf, repActualLength_retSubmit, Int32.toInt_ofNat_of_lt hlt]

/-- A GetStatus that is rejected, since no configuration is active. -/
def earlyStatusMsg : HostMsg :=
  .submit 2 0 usbipDirIn 0
    { transferFlags := 0, transferBufferLength := 2, startFrame := 0, numberOfPackets := 0,
      interval := 0, setup := getStatusSetup } []

/-- Two messages arrive, and a client calls `read()` with a timeout of zero. -/
def rejectedRun : List Action :=
  [.call 0 .start, .start 0 (.started 3 4), .reader, .recv (.some earlyStatusMsg.encode), .reader,
    .recv (.some (outMsg.encode.take 48)), .recv (.some [10, 20, 30]), .reader,
    .call 1 (.read .zero)]

/-- The call handles the GetStatus, which raises an error, and waits in `_reset` for the two
threads. -/
def rejectedEnd : List Action :=
  [.client 1, .recv .zero, .reader, .reader, .writer, .writer, .writer, .writer, .client 1]

theorem rejectedRun_isSome : ((threads .minimal).exec rejectedRun).isSome = true := by
  decide +kernel

theorem rejectedEnd_isSome :
    ((threads .minimal).execFrom (((threads .minimal).exec rejectedRun).get
      rejectedRun_isSome).1 rejectedEnd).isSome = true := by
  decide +kernel

/-- The call was made on a device without an error, and it returns `nullopt` while the OUT command
is still there. -/
theorem not_out_delivery :
    ∃ s evs s' evs', (threads Info.minimal).Run rejectedRun s evs ∧ s.dev.err = none ∧
      (∀ c ∈ arrivals (devEvents evs), c.ep.toNat < 32 ∧ 0 ≤ c.transferBufferLength.toInt) ∧
      s.clients 1 = .entering (.read .zero) ∧
      (threads Info.minimal).RunFrom s rejectedEnd s' evs' ∧
      .returned 1 (.read .zero) .nullopt ∈ evs' ∧ s'.dev.cmds = [outMsg.toCmd] := by
  have hrun := run_exec_get rejectedRun_isSome
  have hend := runFrom_of_execFrom (Option.some_get rejectedEnd_isSome).symm
  exact ⟨_, _, _, _, hrun, by decide +kernel, by decide +kernel, by decide +kernel, hend,
    by decide +kernel, by decide +kernel⟩

/-- The message of `outMsgRun` is read by a client. -/
def readRun : List Action :=
  outMsgRun ++ [.call 1 (.read .zero), .client 1]

theorem readRun_isSome : ((threads .minimal).exec readRun).isSome = true := by decide +kernel

/-- In `readRun` the three bytes are delivered once, and acknowledged. -/
theorem out_delivery_readRun :
    List.Forall₂ Delivers [outMsg.toCmd] [{ ep := 2, data := [10, 20, 30] }] ∧
      List.Forall₂ Acknowledges [outMsg.toCmd]
        (acknowledged (((threads .minimal).exec readRun).get readRun_isSome).1.dev) := by
  have hrun := run_exec_get readRun_isSome
  have hdelivery := out_delivery hrun (by decide +kernel) (by decide +kernel)
  have hpopped :
      (popped (devEvents (((threads .minimal).exec readRun).get readRun_isSome).2)).filter
        isOutTransfer = [outMsg.toCmd] := by decide +kernel
  have hreturned : returnedXfers (((threads .minimal).exec readRun).get readRun_isSome).2
      = [{ ep := 2, data := [10, 20, 30] }] := by decide +kernel
  rw [hpopped, hreturned] at hdelivery
  exact ⟨hdelivery.2.1, hdelivery.2.2.1⟩

end VirtualUSB

import VirtualUSB.Device.Equiv.Descriptors

/-!
# The status of the replies

`_reply` records the status it is passed in the history variable `statuses`, next to the reply, and
encodes it in a RET_UNLINK only.

* `DevStep.enqueues`: what a critical section adds to the two histories.
* `status_reaches_iff`: the host decodes the statuses that were passed exactly unless the critical
  section answers a GetDescriptor request for a descriptor that the device does not have.
-/

namespace VirtualUSB

open Endian Handler LabelledSystem

variable {info : Info} {c : Cmd} {d d' : Dev} {rep : Rep} {status : Int32}

/-! ### The status the host decodes -/

/-- `ret_submit.status` of a reply. -/
def repSubmitStatus (r : Rep) : Int32 :=
  hfbS32 r.header.retSubmit.status

/-- The status of a reply. -/
def repStatus (r : Rep) : Int32 :=
  if repCommand r = usbipRetSubmit then repSubmitStatus r else repUnlinkStatus r

@[simp] theorem repStatus_retSubmit (c : Cmd) (p : List UInt8) (n : ℕ) :
    repStatus (retSubmit c p n) = 0 := by
  rw [repStatus, if_pos (repCommand_retSubmit c p n)]
  simp [repSubmitStatus, retSubmit]

@[simp] theorem repStatus_retUnlink (c : Cmd) (status : Int32) :
    repStatus (retUnlink c status) = status := by
  rw [repStatus, repCommand_retUnlink, if_neg (by decide), repUnlinkStatus_retUnlink]

/-! ### What is passed and what arrives -/

/-- A GetDescriptor request for a descriptor that the device does not have. -/
def isAbsentDescriptor (info : Info) (c : Cmd) : Prop :=
  isGetDescriptor c = true ∧ wanted info c = .absent

theorem isInTransfer.not_getDescriptor {e : EpIdx} (h : isInTransfer e c = true) :
    isGetDescriptor c ≠ true := fun hget =>
  absurd ((isInTransfer.not_standard h).symm.trans (isGetDescriptor.standard hget)) (by decide)

/-- How the status that was passed for a reply relates to the one in it: if there is no descriptor,
1 was passed and 0 arrives, and otherwise what was passed arrives. -/
def Arrives (info : Info) (c : Cmd) (rep : Rep) (status : Int32) : Prop :=
  isAbsentDescriptor info c ∧ status = 1 ∧ repStatus rep = 0 ∨
    ¬ isAbsentDescriptor info c ∧ repStatus rep = status

theorem Arrives.eq_iff (h : Arrives info c rep status) :
    repStatus rep = status ↔ ¬ isAbsentDescriptor info c := by
  rcases h with ⟨habsent, hstatus, hzero⟩ | ⟨hnot, heq⟩
  · rw [hstatus, hzero]
    exact iff_of_false (by decide) (not_not.mpr habsent)
  · exact iff_of_true heq hnot

theorem Arrives.of_absent (h : Arrives info c rep status) (habsent : isAbsentDescriptor info c) :
    status = 1 ∧ repStatus rep = 0 := by
  rcases h with ⟨-, hstatus, hzero⟩ | ⟨hnot, -⟩
  · exact ⟨hstatus, hzero⟩
  · exact (hnot habsent).elim

/-- The standard requests. -/
theorem StandardAnswer.arrives {cfg cfg' : Option ConfigDescPtr} (hc : c.command = usbipCmdSubmit)
    (hstd : isStandard c = true)
    (hrec : (getSetupRequest c).bmRequestType &&& RequestType.recipientMask
      = RequestType.recipientDevice) (h : StandardAnswer info c cfg cfg' rep status) :
    Arrives info c rep status := by
  cases h with
  | getStatus _ hreq =>
    refine .inr ⟨fun habsent => ?_, repStatus_retSubmit ..⟩
    exact absurd (hreq.symm.trans (isGetDescriptor.request habsent.1)) (by decide)
  | @getDescriptor p n hdir hreq hsel =>
    have hget := isGetDescriptor_iff.mpr ⟨isDeviceRequest_iff.mpr ⟨hc, hstd, hrec, hreq⟩, hdir⟩
    cases p with
    -- `status = (replyData ? 0 : 1)`
    | none =>
      rw [selectDescriptor_none hsel] at hsel
      exact .inl ⟨⟨hget, selectDescriptor_absent_iff.mp hsel⟩, rfl, repStatus_retSubmit ..⟩
    | some p =>
      refine .inr ⟨fun habsent => ?_, repStatus_retSubmit ..⟩
      have hnone := selectDescriptor_absent_iff.mpr habsent.2
      rw [hsel] at hnone
      cases hnone
  | setConfiguration _ hreq =>
    refine .inr ⟨fun habsent => ?_, repStatus_retSubmit ..⟩
    exact absurd (hreq.symm.trans (isGetDescriptor.request habsent.1)) (by decide)

/-! ### The replies of a critical section -/

/-- What was enqueued from one state to the other: the replies with their commands, and the status
that was passed for each. -/
structure Enqueues (d d' : Dev) (new : List ((Cmd × Rep) × Int32)) : Prop where
  history : d'.history = d.history ++ new.map Prod.fst
  statuses : d'.statuses = d.statuses ++ new.map Prod.snd

/-- What is said of a reply with its status: how the two are related, and that a reply to a
GetDescriptor request comes from the critical section that handles this request. -/
def Called (info : Info) (d : Dev) (op : Op) (p : (Cmd × Rep) × Int32) : Prop :=
  Arrives info p.1.1 p.1.2 p.2 ∧
    (isGetDescriptor p.1.1 = true → op = .handle ∧ d.err = none ∧ ∃ cs, d.cmds = p.1.1 :: cs)

/-- The matcher passes the status 0. -/
theorem enqueues_drained (d : Dev) (e : EpIdx) :
    Enqueues d (d.drained e)
      ((GreedyMatch.drain serve (d.inCmds e) (d.inData e)).1.map fun p => (p, 0)) where
  history := by
    rw [Dev.drained_history, List.map_map]
    exact congrArg (d.history ++ ·) (List.map_id _).symm
  statuses := by
    rw [List.map_map]
    rfl

theorem called_drain {op : Op} {e : EpIdx} {cs : List Cmd}
    (hcs : ∀ c ∈ cs, isInTransfer e c = true) (xs : List Data) :
    ∀ p ∈ (GreedyMatch.drain serve cs xs).1.map fun p => (p, (0 : Int32)), Called info d op p := by
  rw [List.forall_mem_map]
  refine GreedyMatch.forall_mem_drain (P := fun c => isInTransfer e c = true)
    (Q := fun p => Called info d op (p, 0)) (fun c x hin => ?_) hcs xs
  have hnot := isInTransfer.not_getDescriptor hin
  exact ⟨.inr ⟨fun habsent => hnot habsent.1, repStatus_retSubmit ..⟩, fun hget => (hnot hget).elim⟩

/-- **What a critical section enqueues**, and with which status. -/
theorem DevStep.enqueues {op : Op} {ev : Event} (hwf : d.Wf) (h : DevStep info d op d' ev) :
    ∃ new, Enqueues d d' new ∧ ∀ p ∈ new, Called info d op p := by
  cases h with
  | @handle c cs _ _ herr hcmds hh =>
    have hone : ∀ (rep : Rep) (status : Int32), Arrives info c rep status →
        ∀ p ∈ [((c, rep), status)], Called info d .handle p := by
      intro rep status harrives p hp
      rw [List.mem_singleton.mp hp]
      exact ⟨harrives, fun _ => ⟨rfl, herr, cs, hcmds⟩⟩
    cases hh with
    | standard hc hstd hrec hans =>
      exact ⟨_, ⟨rfl, rfl⟩, hone _ _ (hans.arrives hc hstd hrec)⟩
    | out hc hstd =>
      refine ⟨_, ⟨rfl, rfl⟩, hone _ _ (.inr ⟨fun habsent => ?_, repStatus_retSubmit ..⟩)⟩
      exact absurd (hstd.symm.trans (isGetDescriptor.standard habsent.1)) (by decide)
    | @inTransfer e hin =>
      obtain ⟨hhistory, hstatuses⟩ := enqueues_drained ({ d with cmds := cs }.pushCmd e c) e
      exact ⟨_, ⟨hhistory, hstatuses⟩,
        called_drain (Dev.forall_mem_pushCmd (hwf.inTransfer _) hin) _⟩
    | unlink hc =>
      refine ⟨_, ⟨rfl, rfl⟩, hone _ _ (.inr ⟨fun habsent => ?_, repStatus_retUnlink ..⟩)⟩
      exact absurd (hc.symm.trans (isGetDescriptor.submit habsent.1)) (by decide)
  | @write e data =>
    obtain ⟨hhistory, hstatuses⟩ := enqueues_drained (d.pushData (writeIdx e) data) (writeIdx e)
    exact ⟨_, ⟨hhistory, hstatuses⟩, called_drain (hwf.inTransfer _) _⟩
  | fail err =>
    refine ⟨[], ⟨?_, ?_⟩, by simp⟩
    · rw [Dev.fail_history, List.map_nil, List.append_nil]
    · rw [Dev.fail_statuses, List.map_nil, List.append_nil]
  | _ => exact ⟨[], ⟨(List.append_nil _).symm, (List.append_nil _).symm⟩, by simp⟩

/-! ### When the status arrives -/

/-- The critical section handles a GetDescriptor request for a descriptor that the device does not
have. -/
def AnswersAbsent (info : Info) (d : Dev) (op : Op) : Prop :=
  op = .handle ∧ d.err = none ∧ ∃ c cs, d.cmds = c :: cs ∧ isAbsentDescriptor info c

/-- Such a request is answered with an empty payload, and the status 1 is passed for it. -/
theorem step_of_answersAbsent {cs : List Cmd} (herr : d.err = none) (hcmds : d.cmds = c :: cs)
    (habsent : isAbsentDescriptor info c) :
    d.step info .handle = some (enqueue c (retSubmit c [] 0) 1 { d with cmds := cs },
      [.handled c (unlinkTarget d c) none]) := by
  have hsel : selectDescriptor info (getSetupRequest c) = .ok (none, 0) :=
    selectDescriptor_absent_iff.mpr habsent.2
  rw [Dev.step_handle herr hcmds, handleStep, handleCmd_getDescriptor habsent.1,
    descriptorStatus_of_absent habsent.2, readDescriptor_val, hsel]
  rfl

/-- **The status reaches the host unless there is no descriptor.**  In every reachable state, what
the host decodes from the replies that a critical section enqueues are the statuses that the
handlers passed for them, if and only if the critical section does not handle a GetDescriptor
request for a descriptor that the device does not have.  For such a request the status passed is 1,
and the host decodes 0. -/
theorem status_reaches_iff {is : List Op} {evs evs' : List Event} {op : Op}
    (h : (device info).Run is d evs) (hs : d.step info op = some (d', evs')) :
    ∃ new, Enqueues d d' new ∧
      ((∀ p ∈ new, repStatus p.1.2 = p.2) ↔ ¬ AnswersAbsent info d op) ∧
      ∀ p ∈ new, isAbsentDescriptor info p.1.1 → p.2 = 1 ∧ repStatus p.1.2 = 0 := by
  have hwf := wf_of_run .init h
  obtain ⟨ev, rfl, hstep⟩ := step_spec hwf hs
  obtain ⟨new, hnew, hcalled⟩ := hstep.enqueues hwf
  refine ⟨new, hnew, ⟨?_, ?_⟩, fun p hp => (hcalled p hp).1.of_absent⟩
  · rintro hall ⟨rfl, herr, c, cs, hcmds, habsent⟩
    rw [step_of_answersAbsent herr hcmds habsent] at hs
    obtain ⟨rfl, -⟩ := Prod.ext_iff.mp (Option.some.inj hs)
    -- the only new reply is the one to this request
    obtain ⟨p, hp, hfst⟩ : ∃ p ∈ new, p.1 = (c, retSubmit c [] 0) := by
      rw [← List.mem_map, ← List.append_cancel_left hnew.history]
      exact List.mem_singleton_self _
    refine (hcalled p hp).1.eq_iff.mp (hall p hp) ?_
    rwa [hfst]
  · intro hnot p hp
    rw [(hcalled p hp).1.eq_iff]
    intro habsent
    -- a reply to a GetDescriptor is enqueued only when the request is handled
    obtain ⟨rfl, herr, cs, hcmds⟩ := (hcalled p hp).2 habsent.1
    exact hnot ⟨rfl, herr, p.1.1, cs, hcmds, habsent⟩

/-- An IN command waits and is unlinked. -/
def statusRun : List Op :=
  [.arrive (.submit 1 usbipDirIn 1 8), .handle, .arrive (.unlink 2 1)]

theorem statusRun_isSome : ((device .minimal).exec statusRun).isSome = true := by decide

/-- `-ECONNRESET` was passed for the RET_UNLINK, and it arrives. -/
theorem status_reaches_iff_statusRun :
    ∃ d evs d' evs' new, (device .minimal).Run statusRun d evs ∧
      d.step .minimal .handle = some (d', evs') ∧ Enqueues d d' new ∧
      d'.statuses = [-econnreset] ∧ ∀ p ∈ new, repStatus p.1.2 = p.2 := by
  have hrun := run_exec_get statusRun_isSome
  obtain ⟨⟨d', evs'⟩, hs⟩ := Option.isSome_iff_exists.mp
    (show ((((device .minimal).exec statusRun).get statusRun_isSome).1.step .minimal
      .handle).isSome = true by decide)
  obtain ⟨new, hnew, hiff, -⟩ := status_reaches_iff hrun hs
  refine ⟨_, _, d', evs', new, hrun, hs, hnew, ?_, hiff.mpr ?_⟩
  · have hstatuses : ((((device .minimal).exec statusRun).get statusRun_isSome).1.step .minimal
        .handle).map (fun r => r.1.statuses) = some [-econnreset] := by decide
    rw [hs] at hstatuses
    exact Option.some.inj hstatuses
  · rintro ⟨-, -, c, cs, hcmds, hget, -⟩
    have hc : Cmd.unlink 2 1 = c := (List.cons.inj hcmds).1
    rw [← hc] at hget
    exact absurd hget (by decide)

/-- A string is asked for, and the device has no strings: `_reply` is told 1, the host gets 0. -/
theorem not_status_reaches :
    ∃ d evs d' evs' p, (device .minimal).Run
        [.arrive (getDescriptorRequest DescriptorType.string 0 4)] d evs ∧
      d.step .minimal .handle = some (d', evs') ∧ Enqueues d d' [(p, 1)] ∧
      repStatus p.2 = 0 := by
  have habsent : isAbsentDescriptor .minimal (getDescriptorRequest DescriptorType.string 0 4) :=
    ⟨by decide, by decide⟩
  exact ⟨_, _, _, _, (_, retSubmit _ [] 0), RunWhere.single trivial rfl,
    step_of_answersAbsent rfl rfl habsent, ⟨rfl, rfl⟩, repStatus_retSubmit ..⟩

end VirtualUSB

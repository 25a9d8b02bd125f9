import VirtualUSB.Device.Equiv.System

/-!
# Accepted and rejected commands

`rejected_no_trace`: a command on which `_handleCmd` throws leaves the state as it was; any other
command is answered or waits in the deque of its endpoint.
-/

namespace VirtualUSB

open Handler LabelledSystem GreedyMatch

variable {info : Info} {c : Cmd} {d d' : Dev} {e : EpIdx}

/-- A reply to the command: it carries its number, and is a RET_SUBMIT for a SUBMIT and a RET_UNLINK
for an UNLINK. -/
structure IsReplyTo (c : Cmd) (rep : Rep) : Prop where
  seqnum : repSeqnum rep = c.seqnum
  command : c.command = usbipCmdSubmit ∧ repCommand rep = usbipRetSubmit ∨
    c.command = usbipCmdUnlink ∧ repCommand rep = usbipRetUnlink

theorem Answer.isReplyTo {rep : Rep} (h : Answer info c rep) : IsReplyTo c rep where
  seqnum := h.repSeqnum
  command := h.repCommand

/-- What became of a command that was accepted. -/
inductive Accepted (c : Cmd) (d d' : Dev) : Prop
  /-- A reply to it was enqueued. -/
  | replied {rep : Rep} (hrep : IsReplyTo c rep) (hreps : d'.reps = d.reps ++ [rep])
      (hhistory : d'.history = d.history ++ [(c, rep)])
  /-- It waits at the end of the deque of its endpoint. -/
  | waits {e : EpIdx} (hin : isInTransfer e c = true) (hcmds : d'.inCmds e = d.inCmds e ++ [c])
      (hreps : d'.reps = d.reps)
  /-- It was queued in the deque of its endpoint and answered from there. -/
  | answered {e : EpIdx} {rep : Rep} (hin : isInTransfer e c = true) (hcmds : d'.inCmds e = [])
      (hrep : IsReplyTo c rep) (hreps : d'.reps = d.reps ++ [rep])
      (hhistory : d'.history = d.history ++ [(c, rep)])

/-- An IN transfer waits if there is no data, and otherwise it is answered. -/
theorem accepted_inTransfer (info : Info) (hwf : d.Wf) (hin : isInTransfer e c = true) :
    Accepted c d ((d.pushCmd e c).drained e) := by
  cases hdata : d.inData e with
  | nil =>
    have hdrain : drain serve ((d.pushCmd e c).inCmds e) ((d.pushCmd e c).inData e)
        = ([], d.inCmds e ++ [c], []) := by
      rw [Dev.pushCmd_inCmds_self, Dev.pushCmd_inData, hdata, drain_nil_right]
    apply Accepted.waits hin
    · rw [Dev.drained_inCmds_self, hdrain]
    · rw [Dev.drained_reps, hdrain, Dev.pushCmd_reps]
      exact List.append_nil _
  | cons x xs =>
    -- it is the only command of its endpoint, so it gets the front data
    have hcmds : d.inCmds e = [] := (hwf.matched e).resolve_right (by simp [hdata])
    have hdrain : drain serve ((d.pushCmd e c).inCmds e) ((d.pushCmd e c).inData e)
        = ([(serve c x).1], [], (serve c x).2.toList ++ xs) := by
      rw [Dev.pushCmd_inCmds_self, Dev.pushCmd_inData, hcmds, hdata, List.nil_append, drain_cons,
        drain_nil_left]
    have hanswer : Answer info c (serve c x).1.2 := .inTransfer hin x
    apply Accepted.answered hin
    · rw [Dev.drained_inCmds_self, hdrain]
    · exact hanswer.isReplyTo
    · rw [Dev.drained_reps, hdrain, Dev.pushCmd_reps]
      rfl
    · rw [Dev.drained_history, hdrain, Dev.pushCmd_history]
      rfl

/-- What is handled is accepted. -/
theorem Handled.accepted {x : Option Xfer} (hwf : d.Wf) (h : Handled info c d d' x) :
    Accepted c d d' := by
  cases h with
  -- all but the IN transfers are answered at once
  | standard hc hstd _ hans =>
    have hanswer := Answer.standard hc hstd hans
    exact .replied hanswer.isReplyTo rfl rfl
  | out hc hstd hdir =>
    have hanswer : Answer info c (retSubmit c [] c.payloadLen) := .out hc hstd hdir
    exact .replied hanswer.isReplyTo rfl rfl
  | inTransfer hin => exact accepted_inTransfer info hwf hin
  | unlink hc =>
    have hanswer : ∀ found : Bool,
        Answer info c (retUnlink c (if found then -econnreset else 0)) := .unlink hc
    exact .replied (hanswer _).isReplyTo rfl rfl

/-- **A rejected command leaves no trace.**  In every reachable state and for every command: if
`_handleCmd` throws then the replies, the deques and the active configuration are what they were;
if it does not, it has enqueued a reply to the command, or queued the command where it waits or was
answered; and no assertion fails. -/
theorem rejected_no_trace {is : List Op} {evs : List Event} (h : (device info).Run is d evs)
    (c : Cmd) :
    (∀ e d', (handleCmd info c).run d = (.error (.thrown e), d') →
        d'.reps = d.reps ∧ d'.inCmds = d.inCmds ∧ d'.inData = d.inData ∧
          d'.configDesc = d.configDesc) ∧
      (∀ x d', (handleCmd info c).run d = (.ok x, d') → Accepted c d d') ∧
      ∀ d', (handleCmd info c).run d ≠ (.error .aborted, d') := by
  have hwf := wf_of_run .init h
  have hspec := handleCmd_spec info c d hwf.inSubmits
  unfold Handler.Spec at hspec
  refine ⟨fun e d' hrun => ?_, fun x d' hrun => ?_, fun d' hrun => ?_⟩
  · rw [hrun] at hspec
    obtain rfl : d' = d := hspec
    exact ⟨rfl, rfl, rfl, rfl⟩
  · rw [hrun] at hspec
    exact Handled.accepted hwf hspec
  · rw [hrun] at hspec
    exact hspec

/-- GetStatus before any configuration is active. -/
def earlyGetStatus : Cmd :=
  .submit 1 usbipDirIn 0 2 [] getStatusSetup

/-- It is rejected, while data is available. -/
theorem rejected_no_trace_earlyGetStatus :
    ∃ d evs e d', (device .minimal).Run [.write 0x81 [7]] d evs ∧
      (handleCmd .minimal earlyGetStatus).run d = (.error (.thrown e), d') ∧
      d'.reps = d.reps ∧ d'.inCmds = d.inCmds ∧ d'.inData = d.inData ∧
        d'.configDesc = d.configDesc := by
  have hrun : (device .minimal).Run [.write 0x81 [7]] _ _ := run_exec_get (by decide)
  exact ⟨_, _, _, _, hrun, rfl, (rejected_no_trace hrun earlyGetStatus).1 _ _ rfl⟩

end VirtualUSB

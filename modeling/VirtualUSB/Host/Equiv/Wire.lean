import VirtualUSB.Device.Equiv.Matching
import VirtualUSB.Host.Equiv.Commands
import VirtualUSB.Host.Equiv.Replies
import VirtualUSB.Threads.Equiv.Waking

/-!
# What the host gets to see

`heard evs` are the replies that the host has read completely when the bytes in `evs` are on the
socket.

* `heard_eq_take`: at every moment these are the first of the enqueued replies.
* `host_reads_written`: what the host reads from an IN endpoint is what was written for it, from
  the first byte on.
* `wire_answers`: the host never sees two replies to one message, nor a reply to a message that it
  has not sent completely, nor one to a message of which it was told that it was unlinked.
* `at_rest_settled`: when the program has nothing left to do, each message that was sent
  completely is settled.
-/

namespace VirtualUSB

open Endian LabelledSystem

variable {info : Info} {s s' : Sys} {evs evs' : List SysEvent} {is : List Action}

/-! ### The replies on the socket -/

/-- The replies that the host has read completely. -/
def heard (evs : List SysEvent) : List HostRep :=
  (hostParse (sentBytes evs)).1

/-- Every reply answers a command that arrived. -/
theorem answer_of_run (h : (threads info).Run is s evs) :
    ∀ p ∈ s.dev.history, p.1 ∈ arrivals (devEvents evs) ∧ Answer info p.1 p.2 := by
  intro p hp
  obtain ⟨⟨js, hdev⟩, -⟩ := device_run h
  have hhandled := mem_handledCmds_of_mem_answered hdev (List.mem_map_of_mem hp)
  exact ⟨(handledCmds_sublist_arrivals hdev).subset hhandled, answer_of_mem_history hdev p hp⟩

/-- Every reply announces the length of its payload if the host asks for non-negative lengths. -/
theorem announced_of_run (h : (threads info).Run is s evs)
    (hlen : ∀ c ∈ arrivals (devEvents evs), c.command = usbipCmdSubmit →
      0 ≤ c.transferBufferLength.toInt) : ∀ r ∈ replies s.dev, Announced r := by
  intro r hr
  obtain ⟨p, hp, rfl⟩ := List.mem_map.mp hr
  obtain ⟨harr, hans⟩ := answer_of_run h p hp
  exact hans.announced (hlen p.1 harr)

/-- The host parses a part of a stream of replies into the first of them. -/
theorem hostParse_of_isPrefix {rs : List Rep} (hrs : ∀ r ∈ rs, Announced r) {bs : List UInt8}
    (h : bs <+: rs.flatMap repBytes) : ∃ n, (hostParse bs).1 = (rs.take n).map repView := by
  have hframes : ∀ f ∈ rs.map repBytes, repFraming.IsFrame f := by
    intro f hf
    obtain ⟨r, hr, rfl⟩ := List.mem_map.mp hf
    exact isFrame_repBytes (hrs r hr)
  rw [List.flatMap_def] at h
  obtain ⟨n, p, hsplit, -⟩ := Framing.split_of_isPrefix hframes h
  refine ⟨n, ?_⟩
  rw [hostParse, hsplit, ← List.map_take, List.map_map]
  exact List.map_congr_left fun r _ => readRep_repBytes r

/-- **At every moment the host has read the first of the replies.** -/
theorem heard_eq_take (h : (threads info).Run is s evs)
    (hlen : ∀ c ∈ arrivals (devEvents evs), c.command = usbipCmdSubmit →
      0 ≤ c.transferBufferLength.toInt) :
    ∃ n, heard evs = ((replies s.dev).take n).map repView :=
  hostParse_of_isPrefix (announced_of_run h hlen) (sentBytes_append_unsent h).1

/-- The writer thread works and has put every reply on the socket. -/
structure Sys.Flushed (s : Sys) : Prop where
  works : s.writer.failed = false
  unsent : s.writer.unsent = []
  reps : s.dev.reps = []

/-- When every reply is on the socket the host has read them all. -/
theorem heard_eq_replies (h : (threads info).Run is s evs)
    (hlen : ∀ c ∈ arrivals (devEvents evs), c.command = usbipCmdSubmit →
      0 ≤ c.transferBufferLength.toInt) (hflushed : s.Flushed) :
    heard evs = (replies s.dev).map repView := by
  have hbytes := (sentBytes_append_unsent h).2 hflushed.works
  rw [hflushed.unsent, hflushed.reps, List.append_nil, List.flatMap_nil, List.append_nil] at hbytes
  rw [heard, hbytes, hostParse_repBytes (announced_of_run h hlen)]

/-! ### The data of an IN endpoint -/

theorem retUnlink_ne_retSubmit : usbipRetUnlink ≠ usbipRetSubmit := by decide

/-- The commands that arrived are the first of the messages that were received completely. -/
theorem arrivals_isPrefix {msgs : List HostMsg} (hmsgs : ∀ m ∈ msgs, m.WellFormed)
    (h : (threads info).Run is s evs)
    (hstream : receivedBytes evs <+: msgs.flatMap HostMsg.encode) :
    arrivals (devEvents evs) <+:
      (Framing.complete HostMsg.encode (receivedBytes evs).length msgs).map HostMsg.toCmd :=
  ⟨_, (readerInv_of_run h).arrivals_eq hmsgs hstream⟩

instance : (m : HostMsg) → Decidable m.WellFormed
  | .submit .. => inferInstanceAs (Decidable (_ ∧ _))
  | .unlink .. => inferInstanceAs (Decidable True)

/-- A well-formed SUBMIT asks for a non-negative length. -/
theorem HostMsg.WellFormed.length_nonneg {m : HostMsg} (h : m.WellFormed)
    (hsub : m.toCmd.command = usbipCmdSubmit) : 0 ≤ m.toCmd.transferBufferLength.toInt := by
  cases m with
  | submit seqnum devid direction ep cmd payload =>
    show 0 ≤ (Header.cmdSubmit (Header.setCmdSubmit _ cmd)).transferBufferLength.toInt
    rw [Header.cmdSubmit_setCmdSubmit]
    exact h.1
  | unlink => exact (cmdUnlink_ne_cmdSubmit hsub).elim

/-- The host asks for non-negative lengths. -/
theorem length_nonneg_of_arrivals {msgs : List HostMsg} (hmsgs : ∀ m ∈ msgs, m.WellFormed)
    (h : (threads info).Run is s evs)
    (hstream : receivedBytes evs <+: msgs.flatMap HostMsg.encode) :
    ∀ c ∈ arrivals (devEvents evs), c.command = usbipCmdSubmit →
      0 ≤ c.transferBufferLength.toInt := by
  intro c hc hsub
  obtain ⟨m, hm, rfl⟩ := List.mem_map.mp ((arrivals_isPrefix hmsgs h hstream).subset hc)
  exact (hmsgs m ((Framing.complete_isPrefix _ _ _).subset hm)).length_nonneg hsub

/-- Messages with distinct numbers are commands with distinct numbers. -/
theorem distinctSeqnums_of_messages {msgs : List HostMsg} (hmsgs : ∀ m ∈ msgs, m.WellFormed)
    (hnd : (msgs.map fun m => m.toCmd.seqnum).Nodup) (h : (threads info).Run is s evs)
    (hstream : receivedBytes evs <+: msgs.flatMap HostMsg.encode) :
    DistinctSeqnums (devEvents evs) := by
  have harr := ((arrivals_isPrefix hmsgs h hstream).map Cmd.seqnum).sublist
  rw [List.map_map] at harr
  exact (harr.trans ((Framing.complete_isPrefix _ _ msgs).sublist.map _)).nodup hnd

/-- The reply is addressed as the message. -/
structure HostRep.To (r : HostRep) (m : HostMsg) : Prop where
  kind : m.toCmd.command = usbipCmdSubmit ∧ r.command = usbipRetSubmit ∨
    m.toCmd.command = usbipCmdUnlink ∧ r.command = usbipRetUnlink
  seqnum : r.seqnum = m.toCmd.seqnum
  devid : r.devid = m.toCmd.header.base.devid
  direction : r.direction = m.toCmd.direction
  ep : r.ep = m.toCmd.ep

section Device

variable {d : Dev} {devEvs : List Event} {ops : List Op}

/-- Commands with distinct numbers get replies with distinct numbers. -/
theorem nodup_seqnum_history (h : (device info).Run ops d devEvs) (hnd : DistinctSeqnums devEvs) :
    ((d.history.map Prod.fst).map Cmd.seqnum).Nodup := by
  have hone : (d.history.map Prod.fst).Nodup := List.nodup_iff_count_le_one.mpr fun c => by
    by_cases hc : c ∈ answered d
    · have hcount := count_eq_one h hnd (mem_handledCmds_of_mem_answered h hc)
      exact (Nat.le_add_left _ _).trans ((Nat.le_add_right _ _).trans hcount.le)
    · exact (List.count_eq_zero.mpr hc).le.trans (Nat.zero_le 1)
  refine hone.map_on fun c hc c' hc' hseq => ?_
  exact eq_of_seqnum_eq h hnd (mem_handledCmds_of_mem_answered h hc)
    (mem_handledCmds_of_mem_answered h hc') hseq

/-- An UNLINK that is answered with `-ECONNRESET` has unlinked a command with the number that it
names. -/
theorem exists_unlinked_of_status (h : (device info).Run ops d devEvs)
    (hnd : DistinctSeqnums devEvs) {p : Cmd × Rep} (hp : p ∈ d.history)
    (hu : p.1.command = usbipCmdUnlink) (hstatus : repUnlinkStatus p.2 = -econnreset) :
    ∃ c, (p.1, c) ∈ unlinked devEvs ∧ c.seqnum = p.1.unlinkSeqnum := by
  have hhandled := mem_handledCmds_of_mem_answered h (List.mem_map_of_mem hp)
  obtain ⟨t, x, hev⟩ := exists_mem_of_mem_handledCmds hhandled
  obtain ⟨d₁, d₂, -, htarget, hh, hhist⟩ := exists_handledAt h hev
  -- the reply is the one that was enqueued when the UNLINK was handled
  have hans := answer_of_mem_history h p hp
  have hkind : VirtualUSB.repCommand p.2 = usbipRetUnlink := by
    rcases hans.repCommand with ⟨hc, -⟩ | ⟨-, hr⟩
    · exact (cmdUnlink_ne_cmdSubmit (hu.symm.trans hc)).elim
    · exact hr
  have hmem : p.2 ∈ retUnlinks d p.1.seqnum :=
    List.mem_filter.mpr ⟨List.mem_map_of_mem hp, by simp [hkind, hans.repSeqnum]⟩
  rw [retUnlinks_eq h hnd hu hhandled hh hhist, List.mem_singleton] at hmem
  rw [hmem, repUnlinkStatus_retUnlink] at hstatus
  cases hw : waitingFor d₁ p.1.unlinkSeqnum with
  | none =>
    rw [hw] at hstatus
    exact absurd hstatus (by decide)
  | some c =>
    rw [unlinkTarget, if_pos hu, hw] at htarget
    subst htarget
    have hfound := List.find?_some hw
    exact ⟨c, List.mem_filterMap.mpr ⟨_, hev, rfl⟩, beq_iff_eq.mp hfound⟩

/-- A command that was unlinked is not answered, and no other command has its number. -/
theorem not_answered_of_unlinked (h : (device info).Run ops d devEvs)
    (hnd : DistinctSeqnums devEvs) {u c : Cmd} (hc : (u, c) ∈ unlinked devEvs) :
    ∀ p ∈ d.history, p.1.seqnum ≠ c.seqnum := by
  intro p hp hseq
  have hpos : 0 < ((unlinked devEvs).map Prod.snd).count c :=
    List.count_pos_iff.mpr (List.mem_map_of_mem (f := Prod.snd) hc)
  have hledger := count_ledger h c
  have hhandled : c ∈ handledCmds devEvs := List.count_pos_iff.mp (by omega)
  have hans : p.1 ∈ answered d := List.mem_map_of_mem hp
  have heq := eq_of_seqnum_eq h hnd (mem_handledCmds_of_mem_answered h hans) hhandled hseq
  have hone := count_eq_one h hnd hhandled
  have hcount : 0 < (answered d).count c := List.count_pos_iff.mpr (heq ▸ hans)
  omega

end Device

/-- The replies that the host has read are enqueued replies. -/
theorem exists_of_mem_heard (h : (threads info).Run is s evs)
    (hlen : ∀ c ∈ arrivals (devEvents evs), c.command = usbipCmdSubmit →
      0 ≤ c.transferBufferLength.toInt) {r : HostRep} (hr : r ∈ heard evs) :
    ∃ p ∈ s.dev.history, r = repView p.2 := by
  obtain ⟨n, hn⟩ := heard_eq_take h hlen
  rw [hn] at hr
  obtain ⟨rep, hrep, rfl⟩ := List.mem_map.mp hr
  obtain ⟨p, hp, rfl⟩ := List.mem_map.mp (List.mem_of_mem_take hrep)
  exact ⟨p, hp, rfl⟩

/-- A reply of the history is addressed as the message that arrived as its command. -/
theorem Answer.to {m : HostMsg} {r : Rep} (h : Answer info m.toCmd r) : (repView r).To m where
  kind := h.repCommand
  seqnum := h.view_base.1
  devid := h.view_base.2.1
  direction := h.view_base.2.2.1
  ep := h.view_base.2.2.2

/-- A reply that the host has read is the answer to the message with its number. -/
theorem answer_of_heard {msgs : List HostMsg} (hmsgs : ∀ m ∈ msgs, m.WellFormed)
    (hnd : (msgs.map fun m => m.toCmd.seqnum).Nodup) (h : (threads info).Run is s evs)
    (hstream : receivedBytes evs <+: msgs.flatMap HostMsg.encode) {m : HostMsg} (hm : m ∈ msgs)
    {r : HostRep} (hr : r ∈ heard evs) (hseq : r.seqnum = m.toCmd.seqnum) :
    ∃ p ∈ s.dev.history, p.1 = m.toCmd ∧ r = repView p.2 ∧ Answer info m.toCmd p.2 := by
  obtain ⟨p, hp, rfl⟩ := exists_of_mem_heard h (length_nonneg_of_arrivals hmsgs h hstream) hr
  obtain ⟨harr, hans⟩ := answer_of_run h p hp
  obtain ⟨m', hm', hmp⟩ := List.mem_map.mp ((arrivals_isPrefix hmsgs h hstream).subset harr)
  have hsame : m' = m := by
    refine List.inj_on_of_nodup_map hnd ((Framing.complete_isPrefix _ _ _).subset hm') hm ?_
    rw [hmp, ← hans.view_base.1, hseq]
  rw [← hmp, hsame] at hans
  exact ⟨p, hp, by rw [← hmp, hsame], rfl, hans⟩

/-- **The protocol on the wire.**  The host sends messages with distinct numbers.  Then at every
moment of every run no two replies that it has read have one number; each of them is addressed as a
message that the device had received completely; and once it has read that an UNLINK was
successful, it has read no reply with the number that the UNLINK names. -/
theorem wire_answers {msgs : List HostMsg} (hmsgs : ∀ m ∈ msgs, m.WellFormed)
    (hnd : (msgs.map fun m => m.toCmd.seqnum).Nodup) (h : (threads info).Run is s evs)
    (hstream : receivedBytes evs <+: msgs.flatMap HostMsg.encode) :
    ((heard evs).map HostRep.seqnum).Nodup ∧
      (∀ r ∈ heard evs,
        ∃ m ∈ Framing.complete HostMsg.encode (receivedBytes evs).length msgs, r.To m) ∧
      ∀ u ∈ msgs, u.toCmd.command = usbipCmdUnlink → ∀ r ∈ heard evs, r.To u →
        r.status = -econnreset → ∀ r' ∈ heard evs, r'.seqnum ≠ u.toCmd.unlinkSeqnum := by
  obtain ⟨⟨js, hdev⟩, -⟩ := device_run h
  have hlen := length_nonneg_of_arrivals hmsgs h hstream
  have hdistinct := distinctSeqnums_of_messages hmsgs hnd h hstream
  have hseq : ∀ p ∈ s.dev.history, (repView p.2).seqnum = p.1.seqnum := fun p hp =>
    (answer_of_run h p hp).2.view_base.1
  refine ⟨?_, fun r hr => ?_, fun u hu hucmd r hr hto hstatus r' hr' hseq' => ?_⟩
  · obtain ⟨n, hn⟩ := heard_eq_take h hlen
    have hmap : (heard evs).map HostRep.seqnum
        = ((s.dev.history.map Prod.fst).map Cmd.seqnum).take n := by
      rw [hn, replies, ← List.map_take, ← List.map_take, ← List.map_take, List.map_map,
        List.map_map, List.map_map]
      exact List.map_congr_left fun p hp => hseq p (List.mem_of_mem_take hp)
    rw [hmap]
    exact (List.take_sublist _ _).nodup (nodup_seqnum_history hdev hdistinct)
  · obtain ⟨p, hp, rfl⟩ := exists_of_mem_heard h hlen hr
    obtain ⟨harr, hans⟩ := answer_of_run h p hp
    obtain ⟨m, hm, hmp⟩ := List.mem_map.mp ((arrivals_isPrefix hmsgs h hstream).subset harr)
    rw [← hmp] at hans
    exact ⟨m, hm, hans.to⟩
  · obtain ⟨p, hp, hpu, rfl, -⟩ := answer_of_heard hmsgs hnd h hstream hu hr hto.seqnum
    obtain ⟨p', hp', rfl⟩ := exists_of_mem_heard h hlen hr'
    obtain ⟨c, hc, hcseq⟩ := exists_unlinked_of_status hdev hdistinct hp (by rw [hpu, hucmd])
      hstatus
    exact not_answered_of_unlinked hdev hdistinct hc p' hp'
      (by rw [← hseq p' hp', hseq', hcseq, hpu])

/-- An UNLINK of the request `inMsg`. -/
def unlinkMsg : HostMsg :=
  .unlink 8 0 usbipDirOut 0 7 {}

/-- The request is unlinked before there is data for it. -/
def unlinkWireRun : List Action :=
  [.call 0 .start, .start 0 (.started 3 4), .reader, .writer, .recv (.some inMsg.encode), .reader,
    .recv (.some unlinkMsg.encode), .reader, .call 0 (.read .zero), .client 0, .writer,
    .send (.some 48)]

theorem unlinkWireRun_isSome : ((threads .minimal).exec unlinkWireRun).isSome = true := by
  decide +kernel

/-- The host reads that the UNLINK was successful and no reply to the request. -/
theorem wire_answers_unlinkWireRun :
    (heard (((threads .minimal).exec unlinkWireRun).get unlinkWireRun_isSome).2).map
        (fun r => (r.command, r.seqnum, r.status)) = [(usbipRetUnlink, 8, -econnreset)] ∧
      ((heard (((threads .minimal).exec unlinkWireRun).get unlinkWireRun_isSome).2).map
        HostRep.seqnum).Nodup :=
  ⟨by decide +kernel, (wire_answers (show ∀ m ∈ [inMsg, unlinkMsg], m.WellFormed by decide +kernel)
    (by decide +kernel) (run_exec_get unlinkWireRun_isSome) (by decide +kernel)).1⟩

/-! ### The program at rest -/

/-- A writer thread that has failed is about to call `_reset`, or the device was reset. -/
theorem SysStep.writer_failed_reset {a : Action} (h : SysStep info s a s' evs)
    (hinv : s.writer.failed = true → (∃ e, s.writer = .caught e) ∨ s.flags.reset = true)
    (hfailed : s'.writer.failed = true) :
    (∃ e, s'.writer = .caught e) ∨ s'.flags.reset = true := by
  have hlater : s.writer.failed = true → (∀ e, s.writer ≠ .caught e) → s'.flags.reset = true := by
    intro hf hne
    rcases hinv hf with ⟨e, hcaught⟩ | hreset
    · exact (hne e hcaught).elim
    · exact h.reset hreset
  rcases h.writer_cases with ⟨hpc | ⟨-, hpc⟩, -⟩ | ⟨rfl, hstep⟩ | ⟨r, rfl, hstep⟩
  · rw [hpc] at hfailed ⊢
    exact (hinv hfailed).imp_right h.reset
  · rw [hpc] at hfailed
    cases hfailed
  · cases hstep with
    | copies => cases hfailed
    | raises => exact .inl ⟨_, rfl⟩
    | sleeps hpc =>
      rw [show (s.wait .writer).writer = s.writer from rfl, hpc] at hfailed
      cases hfailed
    | takes => cases hfailed
    | @fails e finished s₁ _ hpc hr =>
      have hreset : s₁.flags.reset = true := by rw [hr.flags]
      exact .inr hreset
    | loops hpc hl => exact .inr (hlater (by rw [hpc]; rfl) (by simp [hpc]))
    | exits hpc => exact .inr (hlater (by rw [hpc]; rfl) (by simp [hpc]))
  · cases hstep with
    | header hpc =>
      dsimp only [Sys.writerPayload] at hfailed
      split_ifs at hfailed <;> cases hfailed
    | payload hpc =>
      dsimp only at hfailed
      split_ifs at hfailed <;> cases hfailed
    | again hpc => exact .inr (hlater hfailed fun e he => by rw [he] at hpc; cases hpc)
    | fails hpc e => exact .inl ⟨e, rfl⟩

theorem writer_failed_reset_of_run (h : (threads info).Run is s evs) :
    s.writer.failed = true → (∃ e, s.writer = .caught e) ∨ s.flags.reset = true :=
  threads_induction
    (P := fun s _ => s.writer.failed = true → (∃ e, s.writer = .caught e) ∨ s.flags.reset = true)
    (fun hf => by cases hf) (fun _ _ _ _ _ _ hinv _ hs => hs.writer_failed_reset hinv) h

/-- The program has nothing left to do: no error was raised, the writer thread was created, a client
waits in `read()`, and neither it nor one of the two threads can go on before more bytes arrive. -/
structure Sys.AtRest (info : Info) (s : Sys) : Prop where
  err : s.dev.err = none
  launched : s.writer ≠ .notLaunched
  reader : s.step info .reader = none
  writer : s.step info .writer = none
  send : ∀ r, s.step info (.send r) = none
  client : ∃ t timeout, s.clients t = .reading timeout ∧ s.step info (.client t) = none

namespace Sys.AtRest

/-- A thread that is in no wait loop has a step. -/
theorem flushed (hrest : s.AtRest info) (h : (threads info).Run is s evs) : s.Flushed := by
  have hreset : s.flags.reset = false := by
    rw [← err_isSome_of_run h, hrest.err]
    rfl
  have hsleep := blocked_of_run h .writer
  have hwriter := hrest.writer
  -- asleep in the loop that waits for a reply, or awake and able to go on
  by_cases hasleep : s.asleep .writer = true
  · rcases hsleep hasleep with ⟨hstage, -⟩ | ⟨⟨fd, hpc⟩, -, hreps⟩
    · have hin := (life_of_run h).inReset .writer hstage
      rw [hreset] at hin
      cases hin.1
    · exact ⟨by rw [hpc]; rfl, by rw [hpc]; rfl, hreps⟩
  · rw [Sys.step, if_neg hasleep, Sys.stepWriter] at hwriter
    cases hpc : s.writer with
    | notLaunched => exact (hrest.launched hpc).elim
    | loop fd =>
      rw [hpc, hrest.err] at hwriter
      dsimp only at hwriter
      split at hwriter <;> simp_all
    | sendHeader =>
      have hsend := hrest.send .zero
      rw [Sys.step, Sys.stepSend, hpc] at hsend
      cases hsend
    | sendPayload =>
      have hsend := hrest.send .zero
      rw [Sys.step, Sys.stepSend, hpc] at hsend
      cases hsend
    | exited =>
      rcases writer_failed_reset_of_run h (by rw [hpc]; rfl) with ⟨e, hcaught⟩ | hr
      · rw [hpc] at hcaught
        cases hcaught
      · rw [hreset] at hr
        cases hr
    | _ =>
      rw [hpc] at hwriter
      cases hwriter

/-- A client that cannot go on in `read()` has taken every command. -/
theorem cmds_eq_nil (hrest : s.AtRest info) (h : (threads info).Run is s evs) :
    s.dev.cmds = [] := by
  obtain ⟨t, timeout, hpc, hstep⟩ := hrest.client
  obtain ⟨-, hwf⟩ := device_run h
  by_cases hasleep : s.asleep (.client t) = true
  · rcases blocked_of_run h (.client t) hasleep with ⟨⟨call, hcall⟩, -⟩ | ⟨-, -, hcmds⟩
    · rw [hpc] at hcall
      cases hcall
    · exact hcmds
  · rw [Sys.step, if_neg hasleep, Sys.stepClient, hpc] at hstep
    exact (Sys.readCall_ne_none hwf timeout hstep).elim

/-- The reader thread has no command in its hands. -/
theorem inHand_eq_nil (hrest : s.AtRest info) (h : (threads info).Run is s evs) :
    s.reader.inHand = [] := by
  have hreader := hrest.reader
  cases hpc : s.reader with
  | push fd cmd =>
    have hawake := reader_awake_of_run h (by rw [hpc]; exact fun hstage => by cases hstage)
    rw [Sys.step, if_neg (by rw [hawake]; exact Bool.false_ne_true), Sys.stepReader, hpc] at hreader
    cases hreader
  | _ => rfl

end Sys.AtRest

/-- How things stand with a message that was received completely: the host has read one reply to
it; or it asks for data of an IN endpoint for which none is there; or an UNLINK has removed such a
request, and the host has read that it did. -/
inductive Settled (s : Sys) (rs : List HostRep) (msgs : List HostMsg) (m : HostMsg) : Prop
  | answered {r : HostRep} (hr : r ∈ rs) (hto : r.To m)
      (honce : rs.countP (fun r => r.seqnum == m.toCmd.seqnum) = 1)
  | waits {e : EpIdx} (hin : isInTransfer e m.toCmd = true) (hwait : m.toCmd ∈ s.dev.inCmds e)
      (hdata : s.dev.inData e = []) (hnone : ∀ r ∈ rs, r.seqnum ≠ m.toCmd.seqnum)
  | unlinked {e : EpIdx} {u : HostMsg} {r : HostRep} (hin : isInTransfer e m.toCmd = true)
      (hu : u ∈ msgs) (hucmd : u.toCmd.command = usbipCmdUnlink)
      (htarget : u.toCmd.unlinkSeqnum = m.toCmd.seqnum) (hr : r ∈ rs) (hto : r.To u)
      (hstatus : r.status = -econnreset) (hnone : ∀ r ∈ rs, r.seqnum ≠ m.toCmd.seqnum)

section Device

variable {d : Dev} {devEvs : List Event} {ops : List Op}

/-- An UNLINK that has removed a command names it, is answered with `-ECONNRESET`, and the command
was an IN transfer. -/
theorem exists_reply_of_unlinked (h : (device info).Run ops d devEvs) {u c : Cmd}
    (hc : (u, c) ∈ unlinked devEvs) :
    u ∈ handledCmds devEvs ∧ u.command = usbipCmdUnlink ∧ u.unlinkSeqnum = c.seqnum ∧
      (∃ e, isInTransfer e c = true) ∧ (u, retUnlink u (-econnreset)) ∈ d.history := by
  obtain ⟨x, hev⟩ := exists_mem_of_mem_unlinked hc
  obtain ⟨d₁, d₂, hat, htarget, hh, hhist⟩ := exists_handledAt h hev
  obtain ⟨is₁, evs₁, evs₃, hrun, -⟩ := hat.run
  unfold unlinkTarget at htarget
  split_ifs at htarget with hucmd
  have hfound : waitingFor d₁ u.unlinkSeqnum = some c := htarget.symm
  obtain ⟨e, he⟩ := mem_waiting.mp (List.mem_of_find?_eq_some hfound)
  have hseq := List.find?_some hfound
  refine ⟨List.mem_filterMap.mpr ⟨_, hev, rfl⟩, hucmd, (beq_iff_eq.mp hseq).symm,
    ⟨e, (wf_of_run .init hrun).inTransfer e c he⟩, hhist.subset ?_⟩
  rw [hh.unlink_history hucmd]
  -- waiting commands are not changed by taking one from `cmds`
  have hsome : (waitingFor { d₁ with cmds := d₂.cmds } u.unlinkSeqnum).isSome = true :=
    Option.isSome_iff_exists.mpr ⟨c, hfound⟩
  rw [if_pos hsome]
  exact List.mem_append_right _ (List.mem_singleton_self _)

/-- A reply with the number of a command answers this command. -/
theorem answered_of_seqnum (h : (device info).Run ops d devEvs) (hnd : DistinctSeqnums devEvs)
    {c : Cmd} (hc : c ∈ handledCmds devEvs) {p : Cmd × Rep} (hp : p ∈ d.history)
    (hseq : p.1.seqnum = c.seqnum) : c ∈ answered d := by
  have hans : p.1 ∈ answered d := List.mem_map_of_mem hp
  rwa [← eq_of_seqnum_eq h hnd (mem_handledCmds_of_mem_answered h hans) hc hseq]

end Device

/-- **Nothing is left over.**  The host sends messages with distinct numbers.  When the program is
at rest, every message that it has received completely is settled, and the host has read every
reply that was enqueued. -/
theorem at_rest_settled {msgs : List HostMsg} (hmsgs : ∀ m ∈ msgs, m.WellFormed)
    (hnd : (msgs.map fun m => m.toCmd.seqnum).Nodup) (h : (threads info).Run is s evs)
    (hstream : receivedBytes evs <+: msgs.flatMap HostMsg.encode) (hrest : s.AtRest info) :
    heard evs = (replies s.dev).map repView ∧
      ∀ m ∈ Framing.complete HostMsg.encode (receivedBytes evs).length msgs,
        Settled s (heard evs)
          (Framing.complete HostMsg.encode (receivedBytes evs).length msgs) m := by
  obtain ⟨⟨js, hdev⟩, hwf⟩ := device_run h
  have hlen := length_nonneg_of_arrivals hmsgs h hstream
  have hdistinct := distinctSeqnums_of_messages hmsgs hnd h hstream
  have hheard := heard_eq_replies h hlen (hrest.flushed h)
  -- every complete message was handled
  have hhandled : handledCmds (devEvents evs)
      = (Framing.complete HostMsg.encode (receivedBytes evs).length msgs).map HostMsg.toCmd := by
    have harr := (readerInv_of_run h).arrivals_eq hmsgs hstream
    rw [hrest.inHand_eq_nil h, List.append_nil] at harr
    rw [← harr, ← popped_append_cmds hdev, hrest.cmds_eq_nil h, List.append_nil,
      popped_eq_handledCmds .init hdev hrest.err]
  have hview : ∀ p ∈ s.dev.history, repView p.2 ∈ heard evs := by
    intro p hp
    rw [hheard]
    exact List.mem_map_of_mem (List.mem_map_of_mem hp)
  have hseq : ∀ p ∈ s.dev.history, (repView p.2).seqnum = p.1.seqnum := fun p hp =>
    (answer_of_run h p hp).2.view_base.1
  refine ⟨hheard, fun m hm => ?_⟩
  have hc : m.toCmd ∈ handledCmds (devEvents evs) := by
    rw [hhandled]
    exact List.mem_map_of_mem hm
  have hone := count_eq_one hdev hdistinct hc
  have hnone : (answered s.dev).count m.toCmd = 0 →
      ∀ r ∈ heard evs, r.seqnum ≠ m.toCmd.seqnum := by
    intro hzero r hr hrseq
    obtain ⟨p, hp, rfl⟩ := exists_of_mem_heard h hlen hr
    rw [hseq p hp] at hrseq
    exact List.count_eq_zero.mp hzero (answered_of_seqnum hdev hdistinct hc hp hrseq)
  rcases Nat.eq_zero_or_pos ((answered s.dev).count m.toCmd) with hzero | hpos
  · rcases Nat.eq_zero_or_pos ((waiting s.dev).count m.toCmd) with hzero' | hpos'
    · -- it was unlinked
      obtain ⟨⟨u, c⟩, hu, heq⟩ := List.mem_map.mp (List.count_pos_iff.mp
        (by omega : 0 < ((unlinked (devEvents evs)).map Prod.snd).count m.toCmd))
      obtain rfl : c = m.toCmd := heq
      obtain ⟨huh, hucmd, htarget, ⟨e, hin⟩, hp⟩ := exists_reply_of_unlinked hdev hu
      rw [hhandled] at huh
      obtain ⟨um, hum, rfl⟩ := List.mem_map.mp huh
      exact .unlinked hin hum hucmd htarget (hview _ hp) (answer_of_run h _ hp).2.to
        (repUnlinkStatus_retUnlink um.toCmd _) (hnone hzero)
    · obtain ⟨e, he⟩ := mem_waiting.mp (List.count_pos_iff.mp hpos')
      refine .waits (hwf.inTransfer e _ he) he ?_ (hnone hzero)
      exact (hwf.matched e).resolve_left (List.ne_nil_of_mem he)
  · obtain ⟨p, hp, heq⟩ := List.mem_map.mp (List.count_pos_iff.mp hpos)
    have hto : (repView p.2).To m := by
      have hans := (answer_of_run h p hp).2
      rw [heq] at hans
      exact hans.to
    refine .answered (hview p hp) hto ?_
    have hnodup := nodup_seqnum_history hdev hdistinct
    have hmap : (heard evs).map HostRep.seqnum = (s.dev.history.map Prod.fst).map Cmd.seqnum := by
      rw [hheard, replies, List.map_map, List.map_map, List.map_map]
      exact List.map_congr_left hseq
    have hcount : ((heard evs).map HostRep.seqnum).count m.toCmd.seqnum = 1 := by
      rw [hmap]
      refine List.count_eq_one_of_mem hnodup ?_
      rw [← heq]
      exact List.mem_map_of_mem (List.mem_map_of_mem hp)
    rwa [List.count, List.countP_map] at hcount

/-- Everything is sent, the writer thread waits for replies, and a client waits for commands. -/
def atRestRun : List Action :=
  unlinkWireRun ++ [.writer, .call 0 (.read .max), .client 0]

theorem atRestRun_isSome : ((threads .minimal).exec atRestRun).isSome = true := by decide +kernel

theorem atRestRun_writer :
    (((threads .minimal).exec atRestRun).get atRestRun_isSome).1.writer = .loop 3 := by
  decide +kernel

theorem atRestRun_atRest : (((threads .minimal).exec atRestRun).get atRestRun_isSome).1.AtRest
    .minimal where
  err := by decide +kernel
  launched := by decide +kernel
  reader := Option.isNone_iff_eq_none.mp (by decide +kernel)
  writer := Option.isNone_iff_eq_none.mp (by decide +kernel)
  send r := by rw [Sys.step, Sys.stepSend, atRestRun_writer]
  client := ⟨0, .max, by decide +kernel, Option.isNone_iff_eq_none.mp (by decide +kernel)⟩

/-- The request and the UNLINK are both settled. -/
theorem at_rest_settled_atRestRun :
    Settled (((threads .minimal).exec atRestRun).get atRestRun_isSome).1
        (heard (((threads .minimal).exec atRestRun).get atRestRun_isSome).2)
        [inMsg, unlinkMsg] inMsg ∧
      Settled (((threads .minimal).exec atRestRun).get atRestRun_isSome).1
        (heard (((threads .minimal).exec atRestRun).get atRestRun_isSome).2)
        [inMsg, unlinkMsg] unlinkMsg := by
  have hmsgs : ∀ m ∈ [inMsg, unlinkMsg], m.WellFormed := by decide +kernel
  have hsettled := (at_rest_settled hmsgs
    (by decide +kernel) (run_exec_get atRestRun_isSome) (by decide +kernel) atRestRun_atRest).2
  have hcomplete : Framing.complete HostMsg.encode
      (receivedBytes (((threads .minimal).exec atRestRun).get atRestRun_isSome).2).length
      [inMsg, unlinkMsg] = [inMsg, unlinkMsg] := by decide +kernel
  rw [hcomplete] at hsettled
  exact ⟨hsettled _ (List.mem_cons_self ..),
    hsettled _ (List.mem_cons_of_mem _ (List.mem_singleton_self _))⟩

end VirtualUSB

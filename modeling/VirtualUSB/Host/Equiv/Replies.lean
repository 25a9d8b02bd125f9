import VirtualUSB.Device.Equiv.ExactlyOnce
import VirtualUSB.Device.Equiv.ReplyLength
import VirtualUSB.Host.Messages
import VirtualUSB.Threads.Equiv.Lifecycle

/-!
# The host reads what the device enqueues

* `hostParse_repBytes`: the host's parser undoes the concatenation of replies that announce the
  length of their payload.
* `WriterInv` says which replies the writer thread has put on the socket and which part of one is
  still missing.
* `reply_framing`: what is on the socket is a prefix of the enqueued replies, and the host parses
  these.
-/

namespace VirtualUSB

open Endian LabelledSystem

variable {info : Info} {s s' : Sys} {evs evs' : List SysEvent}

/-! ### A single reply -/

/-- The bytes that the writer thread sends for a reply. -/
def repBytes (r : Rep) : List UInt8 :=
  r.header.bytes ++ r.payload

/-- The direction of a reply, which lies in it in network order. -/
def repDirection (r : Rep) : UInt32 :=
  hfbU32 r.header.base.direction

/-- A reply as the host sees it. -/
def repView (r : Rep) : HostRep where
  command := repCommand r
  seqnum := repSeqnum r
  devid := hfbU32 r.header.base.devid
  direction := repDirection r
  ep := hfbU32 r.header.base.ep
  status := hfbS32 r.header.retSubmit.status
  actualLength := if repCommand r = usbipRetSubmit then some (repActualLength r) else none
  payload := r.payload

/-- The payload is as long as the reply says: `actual_length` bytes for a RET_SUBMIT with direction
IN, nothing for any other reply. -/
structure Announced (r : Rep) : Prop where
  inSubmit : repCommand r = usbipRetSubmit → repDirection r = usbipDirIn →
    (r.payloadLen : ℤ) = (repActualLength r).toInt
  other : ¬ (repCommand r = usbipRetSubmit ∧ repDirection r = usbipDirIn) → r.payloadLen = 0

/-- The host reads the words of a header as they were before they were swapped. -/
theorem beWordAt_bytes (h : Header) (p : List UInt8) (k : ℕ) :
    beWordAt (h.bytes ++ p) k = hfbU32 (wordAt (h.bytes ++ p) k) :=
  beWord_eq ..

/-- The words that the host looks at in a reply. -/
theorem wordAt_bytes (h : Header) (p : List UInt8) :
    wordAt (h.bytes ++ p) 0 = h.base.command ∧ wordAt (h.bytes ++ p) 4 = h.base.seqnum ∧
      wordAt (h.bytes ++ p) 8 = h.base.devid ∧ wordAt (h.bytes ++ p) 12 = h.base.direction ∧
      wordAt (h.bytes ++ p) 16 = h.base.ep ∧ wordAt (h.bytes ++ p) 20 = h.union.word0 ∧
      wordAt (h.bytes ++ p) 24 = h.union.word1 := by
  have hof := h.ofBytes_append p
  refine ⟨?_, ?_, ?_, ?_, ?_, ?_, ?_⟩
  · exact congrArg (fun h => h.base.command) hof
  · exact congrArg (fun h => h.base.seqnum) hof
  · exact congrArg (fun h => h.base.devid) hof
  · exact congrArg (fun h => h.base.direction) hof
  · exact congrArg (fun h => h.base.ep) hof
  · exact congrArg (fun h => h.union.word0) hof
  · exact congrArg (fun h => h.union.word1) hof

/-- Signed words are read like unsigned ones. -/
theorem toInt32_hfbU32 (x : UInt32) : (hfbU32 x).toInt32 = hfbS32 x.toInt32 := by
  show (swapU32 x).toInt32 = (swapU32 x.toInt32.toUInt32).toInt32
  rw [UInt32.toUInt32_toInt32]

/-- **The host reads a reply as it was enqueued.** -/
theorem readRep_repBytes (r : Rep) : readRep (repBytes r) = repView r := by
  obtain ⟨h₀, h₄, h₈, h₁₂, h₁₆, h₂₀, h₂₄⟩ := wordAt_bytes r.header r.payload
  have hdrop : (r.header.bytes ++ r.payload).drop headerSize = r.payload := by
    rw [← r.header.length_bytes, List.drop_left]
  simp only [readRep, repBytes, beWordAt_bytes, h₀, h₄, h₈, h₁₂, h₁₆, h₂₀, h₂₄, toInt32_hfbU32,
    hdrop]
  rfl

/-- A reply that announces its length is a frame. -/
theorem isFrame_repBytes {r : Rep} (h : Announced r) : repFraming.IsFrame (repBytes r) := by
  obtain ⟨h₀, -, -, h₁₂, -, -, h₂₄⟩ := wordAt_bytes r.header []
  have hlen : (repBytes r).length = headerSize + r.payloadLen := by
    rw [repBytes, List.length_append, Header.length_bytes]
    rfl
  have hbody : repFraming.frameLength (repBytes r) = headerSize +
      if repCommand r = usbipRetSubmit ∧ repDirection r = usbipDirIn then
        (repActualLength r).toInt.toNat
      else 0 := by
    show headerSize + repFraming.body ((repBytes r).take headerSize) = _
    rw [repBytes, Header.take_bytes_append, ← List.append_nil r.header.bytes]
    simp only [repFraming, beWordAt_bytes, h₀, h₁₂, h₂₄, toInt32_hfbU32]
    rfl
  refine ⟨?_, ?_⟩
  · rw [hlen]
    exact Nat.le_add_right _ _
  · rw [hlen, hbody]
    split_ifs with hin
    · have := h.inSubmit hin.1 hin.2
      omega
    · rw [h.other hin]

/-- **The host's parser undoes concatenation.** -/
theorem hostParse_repBytes {rs : List Rep} (h : ∀ r ∈ rs, Announced r) :
    hostParse (rs.flatMap repBytes) = (rs.map repView, []) := by
  have hframes : ∀ f ∈ rs.map repBytes, repFraming.IsFrame f := by
    simpa using fun r hr => isFrame_repBytes (h r hr)
  rw [hostParse, List.flatMap_def, Framing.split_flatten hframes, List.map_map]
  refine congrArg (fun l => (l, [])) (List.map_congr_left fun r _ => ?_)
  exact readRep_repBytes r

/-! ### The replies of the device -/

/-- The five words at the beginning of a reply are those of its command, but for the first. -/
theorem Answer.base {c : Cmd} {r : Rep} (h : Answer info c r) :
    ∃ command, r.header.base = replyBase command c := by
  cases h with
  | standard _ _ hans => cases hans <;> exact ⟨_, rfl⟩
  | out => exact ⟨_, rfl⟩
  | inTransfer => exact ⟨_, rfl⟩
  | unlink => exact ⟨_, rfl⟩

/-- The reply goes to where the command came from. -/
theorem Answer.view_base {c : Cmd} {r : Rep} (h : Answer info c r) :
    (repView r).seqnum = c.seqnum ∧ (repView r).devid = c.header.base.devid ∧
      (repView r).direction = c.direction ∧ (repView r).ep = c.ep := by
  obtain ⟨command, hbase⟩ := h.base
  simp only [repView, VirtualUSB.repSeqnum, repDirection, hbase, replyBase, hfbU32_bfhU32,
    and_self]

/-- The replies to commands without a negative length announce the length of their payload. -/
theorem Answer.announced {c : Cmd} {r : Rep} (h : Answer info c r)
    (hlen : c.command = usbipCmdSubmit → 0 ≤ c.transferBufferLength.toInt) : Announced r := by
  have hdir : repDirection r = c.direction := h.view_base.2.2.1
  obtain ⟨hin, hother⟩ := h.lengthFits hlen
  rw [← hdir] at hin hother
  exact ⟨fun hcmd hd => (hin ⟨hcmd, hd⟩).symm, hother⟩

/-! ### What the writer thread has sent -/

/-- The bytes of the reply in the hands of the writer thread that were not sent yet. -/
def WriterPc.unsent : WriterPc → List UInt8
  | .sendHeader _ rest payload => rest ++ payload
  | .sendPayload _ rest => rest
  | _ => []

/-- What was sent are the replies that the writer thread took, but for the bytes of the last one
that it still has to send, or that it will never send because it has failed. -/
def WriterInv (s : Sys) (evs : List SysEvent) : Prop :=
  ∃ lost, sentBytes evs ++ s.writer.unsent ++ lost = (dequeues (devEvents evs)).flatMap repBytes ∧
    (s.writer.failed = false → lost = [])

/-- Nothing was sent and nothing was taken. -/
theorem WriterInv.congr (h : WriterInv s evs) (hunsent : s'.writer.unsent = s.writer.unsent)
    (hfailed : s'.writer.failed = false → s.writer.failed = false) (hsent : sentBytes evs' = [])
    (hdeq : dequeues (devEvents evs') = []) : WriterInv s' (evs ++ evs') := by
  obtain ⟨lost, hbytes, hlost⟩ := h
  refine ⟨lost, ?_, fun hf => hlost (hfailed hf)⟩
  rw [sentBytes_append, hsent, List.append_nil, hunsent, devEvents_append, dequeues_append, hdeq,
    List.append_nil, hbytes]

/-- A call of `send` moves bytes from what is still to be sent to what was sent. -/
theorem SendStep.writerInv {r : IoResult ℕ} (h : SendStep s r s' evs') (hinv : WriterInv s evs) :
    WriterInv s' (evs ++ evs') := by
  have hmoves : ∀ {n : ℕ} {rest payload : List UInt8} {pc : WriterPc},
      s.writer.unsent = rest ++ payload → s.writer.failed = false →
      pc.unsent = rest.drop n ++ payload →
      WriterInv { s with writer := pc } (evs ++ [.sent (rest.take n)]) := by
    intro n rest payload pc hold hfailed hnew
    obtain ⟨lost, hbytes, hlost⟩ := hinv
    refine ⟨lost, ?_, fun _ => hlost hfailed⟩
    have hsent : sentBytes [.sent (rest.take n)] = rest.take n := List.append_nil _
    have hdeq : dequeues (devEvents [.sent (rest.take n)]) = [] := rfl
    have hmove : sentBytes evs ++ rest.take n ++ (rest.drop n ++ payload)
        = sentBytes evs ++ (rest ++ payload) := by
      rw [List.append_assoc, ← List.append_assoc (rest.take n), List.take_append_drop]
    show sentBytes (evs ++ _) ++ pc.unsent ++ lost = _
    rw [sentBytes_append, hsent, hnew, hmove, devEvents_append, dequeues_append, hdeq,
      List.append_nil, ← hold, hbytes]
  cases h with
  | @header socket rest payload n hpc hpos hlen =>
    refine hmoves (by rw [hpc]; rfl) (by rw [hpc]; rfl) ?_
    split_ifs with hend
    · rw [hend, List.nil_append]
      unfold Sys.writerPayload
      split_ifs with hnil
      · rw [hnil]
        rfl
      · rfl
    · rfl
  | @payload socket rest n hpc hpos hlen =>
    have hold : s.writer.unsent = rest ++ [] := by
      rw [hpc]
      exact (List.append_nil _).symm
    refine hmoves hold (by rw [hpc]; rfl) ?_
    rw [List.append_nil]
    split_ifs with hend
    · exact hend.symm
    · rfl
  | again hpc => exact hinv.congr rfl id rfl rfl
  | fails hpc e =>
    obtain ⟨lost, hbytes, -⟩ := hinv
    refine ⟨s.writer.unsent ++ lost, ?_, fun hf => by cases hf⟩
    show sentBytes (evs ++ []) ++ [] ++ (s.writer.unsent ++ lost) = _
    rw [List.append_nil, List.append_nil, ← List.append_assoc]
    exact hbytes

/-- The other steps of the writer thread send nothing; one of them takes the next reply. -/
theorem WriterStep.writerInv (h : WriterStep s s' evs') (hinv : WriterInv s evs) :
    WriterInv s' (evs ++ evs') := by
  cases h with
  | copies hpc => exact hinv.congr (by rw [hpc]; rfl) (fun _ => by rw [hpc]; rfl) rfl rfl
  | raises hpc => exact hinv.congr (by rw [hpc]; rfl) (fun hf => by cases hf) rfl rfl
  | sleeps hpc => exact hinv.congr rfl id rfl rfl
  | @takes socket rep reps hpc herr hreps =>
    obtain ⟨lost, hbytes, hlost⟩ := hinv
    obtain rfl := hlost (by rw [hpc]; rfl)
    have hnone : s.writer.unsent = [] := by rw [hpc]; rfl
    rw [hnone, List.append_nil, List.append_nil] at hbytes
    have hsent : sentBytes [.dev (.dequeued rep)] = [] := rfl
    have hdeq : dequeues (devEvents [.dev (.dequeued rep)]) = [rep] := rfl
    refine ⟨[], ?_, fun _ => rfl⟩
    rw [sentBytes_append, hsent, List.append_nil, hbytes, devEvents_append, dequeues_append, hdeq,
      List.flatMap_append, List.flatMap_singleton, List.append_nil]
    rfl
  | @fails e finished s₁ _ hpc hr =>
    obtain ⟨-, hsent, -, hdeq⟩ := hr.io
    refine hinv.congr ?_ (fun hf => ?_) hsent hdeq
    · rw [hpc]
      cases finished <;> rfl
    · cases finished <;> cases hf
  | @loops finished s₁ hpc hl =>
    refine hinv.congr ?_ (fun hf => ?_) rfl rfl
    · rw [hpc]
      cases finished <;> rfl
    · cases finished <;> cases hf
  | exits hpc => exact hinv.congr (by rw [hpc]; rfl) (fun hf => by cases hf) rfl rfl

/-- **The writer thread sends the replies it takes**, in every run. -/
theorem writerInv_of_run {ok : Sys → Action → Prop} {is : List Action}
    (h : (threads info).RunWhere ok {} is s evs) : WriterInv s evs := by
  refine (threads_induction (P := fun s evs => s.Life ∧ WriterInv s evs) ?_ ?_ h).2
  · exact ⟨.init, [], rfl, fun _ => rfl⟩
  · rintro s evs a s' evs' - ⟨hlife, hinv⟩ - hs
    refine ⟨hs.life hlife, ?_⟩
    rcases hs.writer_cases with ⟨hpc, hsent, hdeq⟩ | ⟨-, h⟩ | ⟨r, -, h⟩
    · rcases hpc with hpc | ⟨hidle, hpc⟩
      · exact hinv.congr (by rw [hpc]) (by rw [hpc]; exact id) hsent hdeq
      · -- the thread is created
        have hoff := WriterPc.stage_off (hlife.fresh (by rw [hidle])).2.1
        exact hinv.congr (by rw [hpc, hoff]; rfl) (fun _ => by rw [hoff]; rfl) hsent hdeq
    · exact h.writerInv hinv
    · exact h.writerInv hinv

/-! ### The whole stream -/

/-- What is on the socket, what the writer thread is sending and what it has to take yet are all the
replies, unless it has failed. -/
theorem sentBytes_append_unsent {is : List Action} (h : (threads info).Run is s evs) :
    (sentBytes evs <+: (replies s.dev).flatMap repBytes) ∧
      (s.writer.failed = false → sentBytes evs ++ s.writer.unsent ++ s.dev.reps.flatMap repBytes
        = (replies s.dev).flatMap repBytes) := by
  obtain ⟨lost, hbytes, hlost⟩ := writerInv_of_run h
  obtain ⟨⟨js, hdev⟩, -⟩ := device_run h
  rw [← dequeues_append_reps hdev, List.flatMap_append, ← hbytes]
  constructor
  · rw [List.append_assoc, List.append_assoc]
    exact List.prefix_append _ _
  · intro hf
    rw [hlost hf, List.append_nil]

/-- **Reply framing.**  However `send` cuts them, the bytes on the socket are a prefix of the
enqueued replies in order, and all of these once the writer thread has nothing left to do.  The
host parses the enqueued replies into exactly these replies, each with the length and the payload
it announces and addressed as the command it answers. -/
theorem reply_framing {is : List Action} (h : (threads info).Run is s evs)
    (hlen : ∀ c ∈ arrivals (devEvents evs), c.command = usbipCmdSubmit →
      0 ≤ c.transferBufferLength.toInt) :
    (sentBytes evs <+: (replies s.dev).flatMap repBytes) ∧
      (s.writer.failed = false → s.writer.unsent = [] → s.dev.reps = [] →
        sentBytes evs = (replies s.dev).flatMap repBytes) ∧
      hostParse ((replies s.dev).flatMap repBytes) = ((replies s.dev).map repView, []) ∧
      (∀ r ∈ replies s.dev, Announced r) ∧
      ∀ p ∈ s.dev.history, p.1 ∈ arrivals (devEvents evs) ∧ (repView p.2).seqnum = p.1.seqnum ∧
        (repView p.2).devid = p.1.header.base.devid ∧ (repView p.2).direction = p.1.direction ∧
        (repView p.2).ep = p.1.ep := by
  obtain ⟨hpre, hall⟩ := sentBytes_append_unsent h
  obtain ⟨⟨js, hdev⟩, -⟩ := device_run h
  have hanswer := answer_of_mem_history hdev
  have harrived : ∀ p ∈ s.dev.history, p.1 ∈ arrivals (devEvents evs) := fun p hp =>
    (handledCmds_sublist_arrivals hdev).subset
      (mem_handledCmds_of_mem_answered hdev (List.mem_map_of_mem hp))
  have hannounced : ∀ r ∈ replies s.dev, Announced r := by
    intro r hr
    obtain ⟨p, hp, rfl⟩ := List.mem_map.mp hr
    exact (hanswer p hp).announced (hlen p.1 (harrived p hp))
  refine ⟨hpre, fun hf hunsent hreps => ?_, hostParse_repBytes hannounced, hannounced,
    fun p hp => ⟨harrived p hp, (hanswer p hp).view_base⟩⟩
  rw [← hall hf, hunsent, hreps, List.append_nil, List.flatMap_nil, List.append_nil]

/-- An IN request for eight bytes on endpoint 1. -/
def inMsg : HostMsg :=
  .submit 7 0 usbipDirIn 1
    { transferFlags := 0, transferBufferLength := 8, startFrame := 0, numberOfPackets := 0,
      interval := 0, setup := Vector.replicate 8 0 } []

/-- The request is answered with three bytes, and `send` cuts the reply into four pieces. -/
def replyRun : List Action :=
  [.call 0 .start, .start 0 (.started 3 4), .reader, .writer, .recv (.some inMsg.encode), .reader,
    .call 0 (.write 0x81 [10, 20, 30]), .client 0, .call 0 (.read .zero), .client 0, .writer,
    .send (.some 20), .send (.failed eintr), .send (.some 28), .send (.some 1), .send (.some 2)]

theorem replyRun_isSome : ((threads .minimal).exec replyRun).isSome = true := by decide +kernel

/-- The host parses what is on the socket into the reply. -/
theorem reply_framing_replyRun :
    hostParse (sentBytes (((threads .minimal).exec replyRun).get replyRun_isSome).2) =
      ([{ command := usbipRetSubmit, seqnum := 7, devid := 0, direction := usbipDirIn, ep := 1,
          status := 0, actualLength := some 3, payload := [10, 20, 30] }], []) := by
  have hframed := reply_framing (run_exec_get replyRun_isSome) (by decide +kernel)
  rw [hframed.2.1 (by decide +kernel) (by decide +kernel) (by decide +kernel), hframed.2.2.1]
  decide +kernel

end VirtualUSB

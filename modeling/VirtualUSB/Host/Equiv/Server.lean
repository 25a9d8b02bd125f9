import VirtualUSB.Device.Equiv.Queues
import VirtualUSB.Host.Equiv.Delivery
import VirtualUSB.Host.Equiv.Wire
import VirtualUSB.Host.Server

/-!
# The program is the server

* `Dev.Serves` relates the state of the device to that of the server.
* `Handled.server`: handling the command of a message is what the server does with the message.
* `device_serves`: every run of the device is a run of the server.
* `threads_refine_server`: whatever the threads and the system calls do, the host sees the server.
-/

namespace VirtualUSB

open Endian LabelledSystem

variable {info : Info} {d d' : Dev} {srv : Server} {c : Cmd} {e : EpIdx}

/-! ### Replies -/

/-- What comes back in every reply to a command. -/
def Cmd.ticket (c : Cmd) : Ticket where
  seqnum := c.seqnum
  devid := c.header.base.devid
  direction := c.direction
  ep := c.ep

/-- The request that a waiting command is. -/
def Cmd.dataRequest (c : Cmd) : DataRequest where
  ticket := c.ticket
  room := c.transferBufferLength.toInt.toNat

theorem HostMsg.ticket_toCmd (m : HostMsg) : m.toCmd.ticket = m.ticket := by
  cases m <;> rfl

theorem repView_retSubmit (c : Cmd) (p : List UInt8) (n : ℕ) :
    repView (retSubmit c p n) = c.ticket.transferred n p := by
  have hlen : repActualLength (retSubmit c p n) = Int32.ofNat n := repActualLength_retSubmit c p n
  simp only [repView, repCommand_retSubmit, repSeqnum_retSubmit, hlen, if_true, Ticket.transferred,
    Cmd.ticket, HostRep.mk.injEq, true_and]
  refine ⟨hfbU32_bfhU32 _, hfbU32_bfhU32 _, hfbU32_bfhU32 _, ?_, rfl⟩
  simp [retSubmit]

theorem repView_retUnlink (c : Cmd) (status : Int32) :
    repView (retUnlink c status) = c.ticket.unlinked status := by
  have hstatus : repUnlinkStatus (retUnlink c status) = status := repUnlinkStatus_retUnlink c status
  simp only [repView, repCommand_retUnlink, repSeqnum_retUnlink, if_neg retUnlink_ne_retSubmit,
    Ticket.unlinked, Cmd.ticket, HostRep.mk.injEq, true_and]
  exact ⟨hfbU32_bfhU32 _, hfbU32_bfhU32 _, hfbU32_bfhU32 _, hstatus, rfl⟩

/-! ### The pipes -/

/-- The device and the server have the same configuration, the same requests wait in the same
order, and the same bytes are left. -/
structure Dev.Serves (d : Dev) (srv : Server) : Prop where
  config : srv.config = d.configDesc
  pending : ∀ e, srv.pending e = (d.inCmds e).map Cmd.dataRequest
  left : ∀ e, srv.left e = (d.inData e).map Data.unsent

/-- The commands that wait ask for non-negative lengths, and no buffer was sent beyond its end. -/
structure Dev.Fair (d : Dev) : Prop where
  length : ∀ e, ∀ c ∈ d.inCmds e, 0 ≤ c.transferBufferLength.toInt
  off : ∀ e, ∀ x ∈ d.inData e, x.off ≤ x.len

/-- Serving a request from a buffer looks at what is left of the buffer only. -/
theorem serve_dataRequest {x : Data} (hc : 0 ≤ c.transferBufferLength.toInt) (hx : x.off ≤ x.len) :
    c.dataRequest.serve x.unsent
      = (repView (serve c x).1.2, (serve c x).2.map Data.unsent) := by
  have hlen : x.unsent.length = x.len - x.off := List.length_drop
  have hn : min (sizeOfInt32 c.transferBufferLength) (x.len - x.off)
      = (x.unsent.take c.transferBufferLength.toInt.toNat).length := by
    rw [List.length_take, hlen, sizeOfInt32_of_nonneg hc]
  have htake : x.unsent.take (x.unsent.take c.transferBufferLength.toInt.toNat).length
      = x.unsent.take c.transferBufferLength.toInt.toNat := by
    rw [List.length_take, List.take_eq_take_iff]
    omega
  have hdrop : x.unsent.drop c.transferBufferLength.toInt.toNat
      = x.data.drop (x.off + min c.transferBufferLength.toInt.toNat (x.len - x.off)) := by
    show (x.data.drop x.off).drop _ = _
    rw [List.drop_drop]
    rcases Nat.le_total c.transferBufferLength.toInt.toNat (x.len - x.off) with hle | hle
    · rw [min_eq_left hle]
    · rw [min_eq_right hle, List.drop_eq_nil_of_le, List.drop_eq_nil_of_le]
      · show x.len ≤ _
        omega
      · show x.len ≤ _
        omega
  have hempty : x.unsent.drop c.transferBufferLength.toInt.toNat = [] ↔
      x.off + min (sizeOfInt32 c.transferBufferLength) (x.len - x.off) = x.len := by
    rw [hdrop, List.drop_eq_nil_iff, sizeOfInt32_of_nonneg hc]
    show x.len ≤ _ ↔ _
    omega
  have hrest : Data.unsent
      { x with off := x.off + min (sizeOfInt32 c.transferBufferLength) (x.len - x.off) }
        = x.unsent.drop c.transferBufferLength.toInt.toNat := by
    rw [hdrop, sizeOfInt32_of_nonneg hc]
    rfl
  have hroom : c.dataRequest.room = c.transferBufferLength.toInt.toNat := rfl
  rw [DataRequest.serve, serve, hroom, repView_retSubmit]
  simp only [hempty]
  split_ifs
  · rw [hn, htake]
    rfl
  · rw [Option.map_some, hrest, hn, htake]
    rfl

theorem serve_off_le {x x' : Data} (hx : x.off ≤ x.len) (h : (serve c x).2 = some x') :
    x'.off ≤ x'.len := by
  unfold serve at h
  dsimp only at h
  split_ifs at h
  obtain rfl := Option.some.inj h
  show x.off + min _ (x.len - x.off) ≤ x.len
  omega

namespace Dev.Serves

theorem congr (h : d.Serves srv) (hconfig : d'.configDesc = d.configDesc)
    (hcmds : d'.inCmds = d.inCmds) (hdata : d'.inData = d.inData) : d'.Serves srv where
  config := h.config.trans hconfig.symm
  pending e := by rw [h.pending, hcmds]
  left e := by rw [h.left, hdata]

/-- Requests and buffers meet on the server as in the device. -/
theorem settle (h : d.Serves srv) (hfair : d.Fair) (e : EpIdx) :
    (d.drained e).Serves (srv.settle e).1 ∧
      (srv.settle e).2
        = (GreedyMatch.drain serve (d.inCmds e) (d.inData e)).1.map fun p => repView p.2 := by
  have hserve : ∀ c x, 0 ≤ c.transferBufferLength.toInt → x.off ≤ x.len →
      c.dataRequest.serve x.unsent = (repView (serve c x).1.2, (serve c x).2.map Data.unsent) :=
    fun _ _ => serve_dataRequest
  have hdrain := GreedyMatch.drain_map_of (k := fun p : Cmd × Rep => repView p.2) hserve
    (fun _ _ _ => serve_off_le) (hfair.length e) (hfair.off e)
  rw [Server.settle, h.pending, h.left, hdrain]
  refine ⟨⟨h.config, fun e' => ?_, fun e' => ?_⟩, rfl⟩
  · by_cases hee : e' = e
    · subst hee
      rw [Dev.drained_inCmds_self]
      exact Function.update_self ..
    · rw [Dev.drained_inCmds_of_ne hee, ← h.pending]
      exact Function.update_of_ne hee ..
  · by_cases hee : e' = e
    · subst hee
      rw [Dev.drained_inData_self]
      exact Function.update_self ..
    · rw [Dev.drained_inData_of_ne hee, ← h.left]
      exact Function.update_of_ne hee ..

theorem pushCmd (h : d.Serves srv) (e : EpIdx) (c : Cmd) :
    (d.pushCmd e c).Serves
      { srv with pending := Function.update srv.pending e (srv.pending e ++ [c.dataRequest]) } where
  config := h.config
  left := h.left
  pending e' := by
    by_cases hee : e' = e
    · subst hee
      rw [Dev.pushCmd_inCmds_self, List.map_append, ← h.pending]
      exact Function.update_self ..
    · rw [Dev.pushCmd_inCmds_of_ne hee, ← h.pending]
      exact Function.update_of_ne hee ..

theorem pushData (h : d.Serves srv) (e : EpIdx) (data : List UInt8) :
    (d.pushData e data).Serves
      { srv with left := Function.update srv.left e (srv.left e ++ [data]) } where
  config := h.config
  pending := h.pending
  left e' := by
    by_cases hee : e' = e
    · subst hee
      rw [Dev.pushData_inData_self, List.map_append, ← h.left]
      exact Function.update_self ..
    · rw [Dev.pushData_inData_of_ne hee, ← h.left]
      exact Function.update_of_ne hee ..

/-- An UNLINK finds on the server what it finds in the device. -/
theorem cancel (h : d.Serves srv) (n : UInt32) :
    (srv.cancel n).1 = (eraseInCmd d.inCmds n).1 ∧
      Dev.Serves { d with inCmds := (eraseInCmd d.inCmds n).2 } (srv.cancel n).2 := by
  have hpipe : srv.pipeWith n = findInCmds d.inCmds n := by
    unfold Server.pipeWith findInCmds
    congr 1
    funext e
    rw [h.pending, List.any_map]
    rfl
  unfold Server.cancel eraseInCmd
  rw [hpipe]
  cases findInCmds d.inCmds n with
  | none => exact ⟨rfl, h⟩
  | some e =>
    refine ⟨rfl, h.config, fun e' => ?_, h.left⟩
    dsimp only
    by_cases hee : e' = e
    · subst hee
      rw [Function.update_self, setDeque_self, h.pending, List.eraseP_map]
      rfl
    · rw [Function.update_of_ne hee, setDeque_of_ne _ _ hee, h.pending]

end Dev.Serves

/-- The queues of a run in which well-formed messages are handled. -/
theorem fair_of_run {evs : List Event} {ops : List Op} (h : (device info).Run ops d evs)
    {ms : List HostMsg} (hms : ∀ m ∈ ms, m.WellFormed)
    (hhandled : handledCmds evs = ms.map HostMsg.toCmd) : d.Fair where
  off e := (queueWf_of_run h e).off_le
  length e c hc := by
    have hwait : 0 < (waiting d).count c :=
      List.count_pos_iff.mpr (mem_waiting.mpr ⟨e, hc⟩)
    have hledger := count_ledger h c
    have hmem : c ∈ handledCmds evs := List.count_pos_iff.mp (by omega)
    rw [hhandled] at hmem
    obtain ⟨m, hm, rfl⟩ := List.mem_map.mp hmem
    exact (hms m hm).length_nonneg (isInTransfer.submit ((wf_of_run .init h).inTransfer e _ hc)).1

/-! ### Endpoint 0 -/

/-- The answers of the device to standard requests are those of the server. -/
theorem StandardAnswer.control {cfg cfg' : Option ConfigDescPtr} {rep : Rep} {status : Int32}
    (hrec : (getSetupRequest c).bmRequestType &&& RequestType.recipientMask
      = RequestType.recipientDevice) (hlen : 0 ≤ c.transferBufferLength.toInt)
    (h : StandardAnswer info c cfg cfg' rep status) :
    ∃ data, Server.control info cfg c.direction (getSetupRequest c)
        c.transferBufferLength.toInt.toNat = some (cfg', data) ∧
      repView rep = c.ticket.transferred data.length data := by
  unfold Server.control
  rw [if_neg (not_not.mpr hrec)]
  cases h with
  | @getStatus p hdir hreq hcfg =>
    refine ⟨Server.statusWord p, ?_, ?_⟩
    · rw [if_neg (by rw [hreq]; decide), if_neg (not_not.mpr hdir), if_pos hreq, hcfg]
      rfl
    · rw [repView_retSubmit]
      cases hself : selfPowered p.desc <;>
        simp [statusBytes, Server.statusWord, hself]
  | @getDescriptor p n hdir hreq hsel =>
    rw [if_neg (by rw [hreq]; decide), if_neg (not_not.mpr hdir), if_neg (by rw [hreq]; decide),
      if_pos hreq, Server.descriptor, hsel, repView_retSubmit]
    cases p with
    | none =>
      obtain rfl := selectDescriptor_none hsel
      exact ⟨[], rfl, by simp⟩
    | some desc => exact ⟨_, rfl, by simp⟩
  | setConfiguration hdir hreq hfind =>
    refine ⟨[], ?_, repView_retSubmit ..⟩
    rw [if_pos hreq, if_pos, hfind]
    · rfl
    · exact hdir.imp_right fun h => ⟨h.1, by rw [← sizeOfInt32_of_nonneg hlen, h.2]⟩

/-! ### What messages ask for -/

namespace HostMsg

variable {m : HostMsg}

theorem purpose_control (hsub : m.toCmd.command = usbipCmdSubmit)
    (hstd : isStandard m.toCmd = true) :
    m.purpose = .control (getSetupRequest m.toCmd) m.toCmd.transferBufferLength.toInt.toNat := by
  cases m with
  | submit seqnum devid direction ep cmd payload =>
    have htrue : (ep == 0 && standardType (setupRequestOf cmd.setup)) = true := hstd
    rw [Bool.and_eq_true, beq_iff_eq] at htrue
    rw [Cmd.transferBufferLength, toCmd, Header.cmdSubmit_setCmdSubmit]
    exact if_pos htrue
  | unlink => exact (cmdUnlink_ne_cmdSubmit hsub).elim

theorem purpose_data (hsub : m.toCmd.command = usbipCmdSubmit)
    (hstd : isStandard m.toCmd = false) {e : EpIdx} (hep : epIdxOf m.toCmd = some e) :
    m.purpose =
      if m.toCmd.direction = usbipDirOut then .deliver (xferOf m.toCmd)
      else if m.toCmd.direction = usbipDirIn then
        .collect e m.toCmd.transferBufferLength.toInt.toNat
      else .invalid := by
  cases m with
  | submit seqnum devid direction ep cmd payload =>
    have hnot : ¬ (ep = 0 ∧ standardType (setupRequestOf cmd.setup) = true) := by
      rintro ⟨hzero, hreq⟩
      have hfalse : (ep == 0 && standardType (setupRequestOf cmd.setup)) = false := hstd
      rw [hzero, hreq] at hfalse
      cases hfalse
    have hpipe : pipeOf ep = some e := hep
    have hlength : (toCmd (.submit seqnum devid direction ep cmd payload)).transferBufferLength
        = cmd.transferBufferLength := by
      rw [Cmd.transferBufferLength, toCmd, Header.cmdSubmit_setCmdSubmit]
    have hdirection : (toCmd (.submit seqnum devid direction ep cmd payload)).direction
        = direction := rfl
    rw [hlength, hdirection, purpose, if_neg hnot, hpipe]
    dsimp only
    by_cases hdir : direction = usbipDirOut
    · rw [if_pos hdir, if_pos hdir]
      -- an endpoint address without the direction bit is the number itself
      have hin : direction ≠ usbipDirIn := by rw [hdir]; decide
      show _ = Purpose.deliver (Xfer.mk (ep.toUInt8 ||| if direction = usbipDirIn then 0x80 else 0)
        _ _)
      rw [if_neg hin, UInt8.or_zero]
      rfl
    · rw [if_neg hdir, if_neg hdir]
  | unlink => exact (cmdUnlink_ne_cmdSubmit hsub).elim

theorem purpose_cancel (hunlink : m.toCmd.command = usbipCmdUnlink) {e : EpIdx}
    (hep : epIdxOf m.toCmd = some e) : m.purpose = .cancel m.toCmd.unlinkSeqnum := by
  cases m with
  | submit => exact (cmdUnlink_ne_cmdSubmit hunlink.symm).elim
  | unlink seqnum devid direction ep target padding =>
    have hpipe : pipeOf ep = some e := hep
    rw [purpose, hpipe]
    rfl

end HostMsg

/-! ### Handling a message -/

/-- **Handling a command is what the server does with its message.** -/
theorem Handled.server {m : HostMsg} (hm : m.WellFormed) (hs : d.Serves srv) (hfair : d.Fair)
    {x : Option Xfer} (h : Handled info m.toCmd d d' x) :
    ∃ srv' outs, (server info).step srv (.message m) = some (srv', outs) ∧ d'.Serves srv' ∧
      (replies d').map repView = (replies d).map repView ++ answersOf outs ∧
      deliveriesOf outs = x.toList := by
  show ∃ srv' outs, Server.step info srv (.message m) = some (srv', outs) ∧ _
  have henqueue : ∀ (rep : Rep) (d₁ : Dev), d₁.history = d.history ++ [(m.toCmd, rep)] →
      (replies d₁).map repView = (replies d).map repView ++ [repView rep] := by
    intro rep d₁ hd₁
    rw [replies, replies, hd₁, List.map_append, List.map_append]
    rfl
  rw [Server.step]
  cases h with
  | standard hc hstd hrec hans =>
    obtain ⟨data, hcontrol, hview⟩ := hans.control hrec (hm.length_nonneg hc)
    rw [HostMsg.purpose_control hc hstd]
    dsimp only
    rw [hs.config, ← m.ticket_toCmd]
    rw [show m.toCmd.ticket.direction = m.toCmd.direction from rfl, hcontrol]
    refine ⟨_, _, rfl, ⟨rfl, hs.pending, hs.left⟩, (henqueue _ _ rfl).trans ?_, rfl⟩
    rw [hview]
    rfl
  | out hc hstd hdir hep =>
    rw [HostMsg.purpose_data hc hstd hep, if_pos hdir]
    dsimp only
    rw [← m.ticket_toCmd]
    refine ⟨_, _, rfl, ⟨hs.config, hs.pending, hs.left⟩, (henqueue _ _ rfl).trans ?_, rfl⟩
    rw [repView_retSubmit]
    rfl
  | @inTransfer e hin =>
    obtain ⟨hc, hdir⟩ := isInTransfer.submit hin
    rw [HostMsg.purpose_data hc (isInTransfer.not_standard hin) (isInTransfer.epIdx hin),
      if_neg (by rw [hdir]; decide), if_pos hdir]
    dsimp only
    rw [← m.ticket_toCmd]
    have hpush := hs.pushCmd e m.toCmd
    have hfair' : (d.pushCmd e m.toCmd).Fair := by
      refine ⟨fun e' c hc' => ?_, hfair.off⟩
      by_cases hee : e' = e
      · subst hee
        exact Dev.forall_mem_pushCmd (hfair.length e') (hm.length_nonneg hc) c hc'
      · rw [Dev.pushCmd_inCmds_of_ne hee] at hc'
        exact hfair.length e' c hc'
    obtain ⟨hserves, hreplies⟩ := hpush.settle hfair' e
    refine ⟨_, _, rfl, hserves, ?_, deliveriesOf_map_answered _⟩
    rw [answersOf_map_answered]
    refine Eq.trans ?_ (congrArg ((replies d).map repView ++ ·) hreplies.symm)
    rw [replies, Dev.drained_history, Dev.pushCmd_history, List.map_append, List.map_append,
      List.map_map, List.map_map, replies, List.map_map]
    rfl
  | unlink hc hep =>
    rw [HostMsg.purpose_cancel hc hep]
    dsimp only
    obtain ⟨hfound, hserves⟩ := hs.cancel m.toCmd.unlinkSeqnum
    refine ⟨_, _, rfl, ⟨hserves.config, hserves.pending, hserves.left⟩,
      (henqueue _ _ rfl).trans ?_, rfl⟩
    rw [repView_retUnlink, m.ticket_toCmd, hfound]
    rfl

/-- A buffer that is written meets the requests on the server as in the device. -/
theorem Dev.Serves.write (info : Info) (hs : d.Serves srv) (hfair : d.Fair) (e : EpIdx)
    (data : List UInt8) :
    ∃ srv' outs, (server info).step srv (.write e data) = some (srv', outs) ∧
      ((d.pushData e data).drained e).Serves srv' ∧
      (replies ((d.pushData e data).drained e)).map repView
        = (replies d).map repView ++ answersOf outs ∧ deliveriesOf outs = [] := by
  have hpush := hs.pushData e data
  have hfair' : (d.pushData e data).Fair := by
    refine ⟨hfair.length, fun e' x hx => ?_⟩
    by_cases hee : e' = e
    · subst hee
      rw [Dev.pushData_inData_self] at hx
      rcases List.mem_append.mp hx with hx | hx
      · exact hfair.off e' x hx
      · rw [List.mem_singleton.mp hx]
        exact Nat.zero_le _
    · rw [Dev.pushData_inData_of_ne hee] at hx
      exact hfair.off e' x hx
  obtain ⟨hserves, hreplies⟩ := hpush.settle hfair' e
  refine ⟨_, _, rfl, hserves, ?_, deliveriesOf_map_answered _⟩
  rw [answersOf_map_answered]
  refine Eq.trans ?_ (congrArg ((replies d).map repView ++ ·) hreplies.symm)
  rw [replies, Dev.drained_history, Dev.pushData_history, List.map_append, List.map_append,
    List.map_map, List.map_map, replies, List.map_map]
  rfl

/-! ### Runs -/

/-- A run of the server that shows what happened in the device: it took the messages `ms` and the
buffers that were written, and it answered and delivered what the device enqueued and returned. -/
structure Dev.ServedBy (info : Info) (d : Dev) (evs : List Event) (ms : List HostMsg)
    (js : List ServerOp) (srv : Server) (outs : List ServerEvent) : Prop where
  run : (server info).Run js srv outs
  serves : d.Serves srv
  messages : messagesOf js = ms
  buffers : ∀ e, buffersOf e js = written e evs
  answers : answersOf outs = (replies d).map repView
  deliveries : deliveriesOf outs = xfers evs

/-- Steps that the server does not see. -/
theorem Dev.ServedBy.silent {evs : List Event} {ev : Event} {ms : List HostMsg}
    {js : List ServerOp} {outs : List ServerEvent} (h : d.ServedBy info evs ms js srv outs)
    (hserves : d'.Serves srv) (hhistory : d'.history = d.history)
    (hwritten : ∀ e, written e [ev] = []) (hxfers : xfers [ev] = []) :
    d'.ServedBy info (evs ++ [ev]) ms js srv outs where
  run := h.run
  serves := hserves
  messages := h.messages
  buffers e := by rw [written_append, hwritten, List.append_nil, h.buffers]
  answers := by rw [h.answers, replies, replies, hhistory]
  deliveries := by rw [xfers_append, hxfers, List.append_nil, h.deliveries]

/-- **Every run of the device is a run of the server**, if the commands that it handles are those
of well-formed messages. -/
theorem device_serves {evs : List Event} {ops : List Op} (h : (device info).Run ops d evs)
    {ms : List HostMsg} (hms : ∀ m ∈ ms, m.WellFormed)
    (hhandled : handledCmds evs = ms.map HostMsg.toCmd) :
    ∃ js srv outs, d.ServedBy info evs ms js srv outs := by
  induction h generalizing ms with
  | nil =>
    obtain rfl : ms = [] := List.map_eq_nil_iff.mp hhandled.symm
    exact ⟨[], {}, [], .nil, ⟨rfl, fun _ => rfl, fun _ => rfl⟩, rfl, fun _ => rfl, rfl, rfl⟩
  | @snoc ops d evs op d' evs' hr _ hs ih =>
    obtain ⟨ev, rfl, hd⟩ := step_spec (wf_of_run .init hr) hs
    rw [handledCmds_append] at hhandled
    cases hd with
    | @handle c cs _ x herr hcmds hh =>
      -- the last message is the one of the command
      obtain ⟨ms, mlast, rfl, hms', hlast⟩ := List.append_eq_map_iff.mp hhandled
      obtain ⟨m, rfl, rfl⟩ := List.map_eq_singleton_iff.mp hlast
      rw [List.forall_mem_append, List.forall_mem_singleton] at hms
      obtain ⟨js, srv, outs, hby⟩ := ih hms.1 hms'.symm
      have hfair := fair_of_run hr hms.1 hms'.symm
      have hserves : Dev.Serves { d with cmds := cs } srv := hby.serves.congr rfl rfl rfl
      obtain ⟨srv', outs', hstep, hserves', hreplies, hxfer⟩ :=
        hh.server hms.2 hserves ⟨hfair.length, hfair.off⟩
      refine ⟨_, _, _, hby.run.snoc trivial hstep, hserves', ?_, fun e => ?_, ?_, ?_⟩
      · rw [messagesOf_append, hby.messages]
        rfl
      · rw [buffersOf_append, written_append, hby.buffers]
        rfl
      · rw [answersOf_append, hby.answers, hreplies]
        rfl
      · rw [deliveriesOf_append, xfers_append, hby.deliveries, hxfer]
        cases x <;> rfl
    | @write ep data herr =>
      rw [show handledCmds [Event.wrote (writeIdx ep) data] = [] from rfl, List.append_nil]
        at hhandled
      obtain ⟨js, srv, outs, hby⟩ := ih hms hhandled
      obtain ⟨srv', outs', hstep, hserves, hreplies, hxfer⟩ :=
        hby.serves.write info (fair_of_run hr hms hhandled) (writeIdx ep) data
      refine ⟨_, _, _, hby.run.snoc trivial hstep, hserves, ?_, fun e => ?_, ?_, ?_⟩
      · rw [messagesOf_append, hby.messages]
        exact List.append_nil _
      · rw [buffersOf_append, written_append, hby.buffers]
        rfl
      · rw [answersOf_append, hby.answers, hreplies]
      · rw [deliveriesOf_append, xfers_append, hby.deliveries, hxfer]
        rfl
    | fail err =>
      obtain ⟨js, srv, outs, hby⟩ := ih hms ((List.append_nil _).symm.trans hhandled)
      exact ⟨js, srv, outs, hby.silent (hby.serves.congr (by simp) (by simp) (by simp)) (by simp)
        (fun _ => rfl) rfl⟩
    | _ =>
      obtain ⟨js, srv, outs, hby⟩ := ih hms ((List.append_nil _).symm.trans hhandled)
      exact ⟨js, srv, outs, hby.silent (hby.serves.congr rfl rfl rfl) rfl (fun _ => rfl) rfl⟩

/-- The commands that were handled are the first ones that arrived. -/
theorem handledCmds_isPrefix_arrivals {evs : List Event} {ops : List Op}
    (h : (device info).Run ops d evs) : handledCmds evs <+: arrivals evs := by
  refine List.IsPrefix.trans ?_ ⟨_, popped_append_cmds h⟩
  -- a command is taken from `cmds` while there is no error, and all of those before were handled
  suffices hsuff : handledCmds evs <+: popped evs ∧
      (d.err = none → handledCmds evs = popped evs) from hsuff.1
  refine (run_induction (P := fun d evs => handledCmds evs <+: popped evs ∧
    (d.err = none → handledCmds evs = popped evs)) .init ⟨List.prefix_rfl, fun _ => rfl⟩ ?_ h).2
  rintro d evs op d' ev _ ⟨hpre, heq⟩ _ hs
  rw [popped_append, handledCmds_append]
  cases hs with
  | handle herr =>
    rw [heq herr]
    exact ⟨List.prefix_rfl, fun _ => rfl⟩
  | reject herr =>
    rw [heq herr]
    exact ⟨(List.prefix_append_right_inj _).mpr List.nil_prefix, fun herr' => by cases herr'⟩
  | fail err =>
    refine ⟨by simpa [handledCmds, popped] using hpre, fun herr' => ?_⟩
    cases hd : d.err with
    | none => rw [heq hd]; rfl
    | some e => simp [Dev.fail, hd] at herr'
  | _ => exact ⟨by simpa [handledCmds, popped] using hpre, fun herr' => by
      simpa [handledCmds, popped] using heq (by simpa using herr')⟩

/-- The commands that were handled are those of the first messages that were received. -/
theorem exists_messages_of_run {msgs : List HostMsg} {s : Sys} {evs : List SysEvent}
    {is : List Action} (hmsgs : ∀ m ∈ msgs, m.WellFormed) (h : (threads info).Run is s evs)
    (hstream : receivedBytes evs <+: msgs.flatMap HostMsg.encode) :
    ∃ ms, ms <+: Framing.complete HostMsg.encode (receivedBytes evs).length msgs ∧
      (∀ m ∈ ms, m.WellFormed) ∧ handledCmds (devEvents evs) = ms.map HostMsg.toCmd ∧
      (s.dev.err = none → ms.map HostMsg.toCmd ++ s.dev.cmds ++ s.reader.inHand
        = (Framing.complete HostMsg.encode (receivedBytes evs).length msgs).map HostMsg.toCmd) := by
  obtain ⟨⟨ops, hdev⟩, -⟩ := device_run h
  obtain ⟨ms, hms, hhandled⟩ := List.prefix_map_iff.mp
    ((handledCmds_isPrefix_arrivals hdev).trans (arrivals_isPrefix hmsgs h hstream))
  refine ⟨ms, hms, fun m hm => hmsgs m ((Framing.complete_isPrefix _ _ _).subset (hms.subset hm)),
    hhandled, fun herr => ?_⟩
  rw [← hhandled, ← popped_eq_handledCmds .init hdev herr, popped_append_cmds hdev,
    (readerInv_of_run h).arrivals_eq hmsgs hstream]

theorem Server.step_deliveries {op : ServerOp} {srv' : Server} {outs : List ServerEvent}
    (h : srv.step info op = some (srv', outs)) :
    deliveriesOf outs = (messagesOf [op]).filterMap HostMsg.delivered := by
  cases op with
  | message m =>
    show _ = [m].filterMap HostMsg.delivered
    rw [List.filterMap_cons, HostMsg.delivered, List.filterMap_nil]
    rw [Server.step] at h
    cases hpurpose : m.purpose with
    | control req length =>
      rw [hpurpose] at h
      obtain ⟨p, -, hp⟩ := Option.map_eq_some_iff.mp h
      obtain ⟨rfl, rfl⟩ := Prod.mk.inj hp
      rfl
    | deliver xfer =>
      rw [hpurpose] at h
      obtain ⟨rfl, rfl⟩ := Prod.mk.inj (Option.some.inj h)
      rfl
    | collect e room =>
      rw [hpurpose] at h
      obtain ⟨rfl, rfl⟩ := Prod.mk.inj (Option.some.inj h)
      exact deliveriesOf_map_answered _
    | cancel target =>
      rw [hpurpose] at h
      obtain ⟨rfl, rfl⟩ := Prod.mk.inj (Option.some.inj h)
      rfl
    | invalid =>
      rw [hpurpose] at h
      cases h
  | write e data =>
    obtain ⟨rfl, rfl⟩ := Prod.mk.inj (Option.some.inj h)
    exact deliveriesOf_map_answered _

/-- The server delivers the transfers of the messages that it takes. -/
theorem deliveriesOf_eq {js : List ServerOp} {outs : List ServerEvent}
    (h : (server info).Run js srv outs) :
    deliveriesOf outs = (messagesOf js).filterMap HostMsg.delivered := by
  induction h with
  | nil => rfl
  | @snoc js srv outs op srv' outs' _ _ hs ih =>
    rw [deliveriesOf_append, messagesOf_append, List.filterMap_append, ih]
    exact congrArg (_ ++ ·) (Server.step_deliveries hs)

/-- A run of the server that shows what the host and the callers saw of the program. -/
structure Sys.ServedBy (info : Info) (s : Sys) (evs : List SysEvent) (msgs : List HostMsg)
    (js : List ServerOp) (srv : Server) (outs : List ServerEvent) : Prop where
  run : (server info).Run js srv outs
  /-- Its messages are the first ones that were received. -/
  messages : messagesOf js <+: msgs
  /-- Without an error the others wait to be handled. -/
  waiting : s.dev.err = none →
    (messagesOf js).map HostMsg.toCmd ++ s.dev.cmds ++ s.reader.inHand = msgs.map HostMsg.toCmd
  /-- Its buffers are those that calls of `write()` took. -/
  buffers : ∀ e, buffersOf e js = written e (devEvents evs)
  /-- The host has read the first of its replies. -/
  heard : heard evs <+: answersOf outs
  /-- Once everything is sent, the host has read all of them. -/
  flushed : s.Flushed → VirtualUSB.heard evs = answersOf outs
  /-- What it delivered is what calls of `read()` returned. -/
  deliveries : deliveriesOf outs = returnedXfers evs

/-- **The program refines the server.**  Whatever the order of the steps of the threads, and however
the bytes are cut, there is a run of the server that takes the messages of the host and the buffers
of the callers, and of which the host reads the replies and the callers get the transfers. -/
theorem threads_refine_server {msgs : List HostMsg} {s : Sys} {evs : List SysEvent}
    {is : List Action} (hmsgs : ∀ m ∈ msgs, m.WellFormed) (h : (threads info).Run is s evs)
    (hstream : receivedBytes evs <+: msgs.flatMap HostMsg.encode) :
    ∃ js srv outs, s.ServedBy info evs
      (Framing.complete HostMsg.encode (receivedBytes evs).length msgs) js srv outs := by
  obtain ⟨⟨ops, hdev⟩, -⟩ := device_run h
  have hlen := length_nonneg_of_arrivals hmsgs h hstream
  obtain ⟨ms, hms, hwf, hhandled, hwaiting⟩ := exists_messages_of_run hmsgs h hstream
  obtain ⟨js, srv, outs, hby⟩ := device_serves hdev hwf hhandled
  refine ⟨js, srv, outs, hby.run, hby.messages ▸ hms, hby.messages ▸ hwaiting, hby.buffers, ?_,
    fun hflushed => ?_, ?_⟩
  · obtain ⟨n, hn⟩ := heard_eq_take h hlen
    rw [hn, hby.answers]
    exact (List.take_prefix _ _).map _
  · rw [heard_eq_replies h hlen hflushed, hby.answers]
  · rw [hby.deliveries, returnedXfers_eq h]

/-- The server takes both messages. -/
theorem threads_refine_server_unlinkWireRun :
    ∃ js srv outs, Sys.ServedBy .minimal
      (((threads .minimal).exec unlinkWireRun).get unlinkWireRun_isSome).1
      (((threads .minimal).exec unlinkWireRun).get unlinkWireRun_isSome).2 [inMsg, unlinkMsg]
      js srv outs := by
  have hmsgs : ∀ m ∈ [inMsg, unlinkMsg], m.WellFormed := by decide +kernel
  have hserved := threads_refine_server hmsgs (run_exec_get unlinkWireRun_isSome)
    (by decide +kernel)
  have hcomplete : Framing.complete HostMsg.encode
      (receivedBytes (((threads .minimal).exec unlinkWireRun).get unlinkWireRun_isSome).2).length
      [inMsg, unlinkMsg] = [inMsg, unlinkMsg] := by decide +kernel
  rwa [hcomplete] at hserved

end VirtualUSB

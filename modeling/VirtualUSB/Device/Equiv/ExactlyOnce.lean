import VirtualUSB.Device.Equiv.Waiting
import Mathlib.Data.List.Nodup

/-!
# Exactly-once completion

A SUBMIT is handled once, and from then on it waits, or was answered, or was removed by an UNLINK.
The argument counts: for every command, the times it was handled as a SUBMIT are the times it waits
plus the times it was answered plus the times it was unlinked (`Ledger.count`).  When the numbers
of the commands are distinct the first is one, and so is exactly one of the other three.

* `exactly_once`: exactly one of the three situations holds of every SUBMIT taken from `cmds`,
  every UNLINK taken from `cmds` has exactly one RET_UNLINK, and there are no other replies.
-/

namespace VirtualUSB

open Endian LabelledSystem

variable {info : Info} {c : Cmd} {d d' : Dev} {e : EpIdx}

/-! ### The ledger of the commands -/

/-- The commands that were answered, in the order of the replies. -/
def answered (d : Dev) : List Cmd :=
  d.history.map Prod.fst

/-- Draining moves commands from the deque to the answered ones. -/
theorem count_drained (d : Dev) (e : EpIdx) (a : Cmd) :
    (waiting (d.drained e)).count a + (answered (d.drained e)).count a
      = (waiting d).count a + (answered d).count a := by
  have hcount := count_flatMap_setDeque d.inCmds e
    (GreedyMatch.drain serve (d.inCmds e) (d.inData e)).2.1 a
  have htag : ∀ c x, Prod.fst (serve c x).1 = id c := fun _ _ => rfl
  have htags := congrArg (List.count a)
    (GreedyMatch.drain_tags htag (d.inCmds e) (d.inData e))
  simp only [List.map_id, List.count_append] at htags
  simp only [waiting, answered, Dev.drained_history, List.map_append, List.count_append]
  simp only [Dev.drained] at hcount ⊢
  omega

/-- Handling a command enters it in the ledger once: it waits, it is answered, or it unlinks a
command that waited and is answered itself. -/
theorem Handled.count {x : Option Xfer} (h : Handled info c d d' x) (a : Cmd) :
    (waiting d').count a + (answered d').count a + (unlinkTarget d c).toList.count a
      = (waiting d).count a + (answered d).count a + [c].count a := by
  have htarget : c.command = usbipCmdSubmit → unlinkTarget d c = none := by
    intro hc
    rw [unlinkTarget, if_neg]
    rw [hc]
    decide
  cases h with
  | standard hc => simp [htarget hc, answered, enqueue, waiting, List.count_append]; omega
  | out hc => simp [htarget hc, answered, enqueue, waiting, List.count_append]; omega
  | @inTransfer e hin =>
    -- it enters its deque, and draining moves it or leaves it there
    have hdrain := count_drained (d.pushCmd e c) e a
    have hpush := count_flatMap_setDeque d.inCmds e (d.inCmds e ++ [c]) a
    rw [htarget (isInTransfer.submit hin).1]
    simp only [List.count_append] at hpush
    simp only [waiting, answered, Dev.pushCmd_history, Option.toList_none, List.count_nil]
      at hdrain ⊢
    simp only [Dev.pushCmd] at hdrain ⊢
    omega
  | unlink hc =>
    -- the target leaves its deque and the UNLINK itself is answered
    have herase := count_waiting_eraseInCmd d c.unlinkSeqnum a
    rw [unlinkTarget, if_pos hc]
    simp only [waiting, answered, enqueue, List.map_append, List.map_cons, List.map_nil,
      List.count_append] at herase ⊢
    omega

/-- The ledger: every command that was handled waits, was answered or was unlinked, with the same
multiplicity. -/
theorem count_ledger {ok : Dev → Op → Prop} {is : List Op} {evs : List Event}
    (h : (device info).RunWhere ok {} is d evs) (a : Cmd) :
    (waiting d).count a + (answered d).count a + ((unlinked evs).map Prod.snd).count a
      = (handledCmds evs).count a := by
  refine (run_induction (P := fun d evs => (waiting d).count a + (answered d).count a +
    ((unlinked evs).map Prod.snd).count a = (handledCmds evs).count a) .init ?_ ?_ h).2
  · simp [waiting_init, answered, unlinked, handledCmds]
  · intro d evs op d' ev hwf hP _ hs
    simp only [unlinked_append, handledCmds_append, List.map_append, List.count_append]
    cases hs with
    | @handle c cs d' x _ _ hh =>
      -- the event says which command the UNLINK removed
      have hc := hh.count a
      have htarget : ((unlinked [.handled c (unlinkTarget d c) x]).map Prod.snd).count a
          = (unlinkTarget d c).toList.count a := by
        cases unlinkTarget d c <;> rfl
      have hhandled : handledCmds [.handled c (unlinkTarget d c) x] = [c] := rfl
      rw [htarget, hhandled]
      simp only [waiting, answered, unlinkTarget, waitingFor] at hc hP ⊢
      omega
    | @write ep data =>
      have hdrain := count_drained (d.pushData (writeIdx ep) data) (writeIdx ep) a
      simp only [waiting, answered, Dev.pushData_inCmds, Dev.pushData_history] at hdrain hP ⊢
      simp only [unlinked, handledCmds, List.filterMap_cons, List.filterMap_nil, List.map_nil,
        List.count_nil] at hP ⊢
      omega
    | fail err => simpa [waiting, answered, unlinked, handledCmds] using hP
    | _ => simpa [waiting, answered, unlinked, handledCmds] using hP

/-! ### Distinct numbers -/

variable {ok : Dev → Op → Prop} {is : List Op} {evs : List Event}

/-- The commands that arrive have distinct numbers. -/
def DistinctSeqnums (evs : List Event) : Prop :=
  ((arrivals evs).map Cmd.seqnum).Nodup

instance (evs : List Event) : Decidable (DistinctSeqnums evs) :=
  inferInstanceAs (Decidable (List.Nodup _))

/-- The commands that were handled have distinct numbers. -/
theorem nodup_handledCmds (h : (device info).RunWhere ok {} is d evs) (hnd : DistinctSeqnums evs) :
    ((handledCmds evs).map Cmd.seqnum).Nodup :=
  hnd.sublist ((handledCmds_sublist_arrivals h).map _)

/-- A command that was handled is the only one with its number. -/
theorem eq_of_seqnum_eq (h : (device info).RunWhere ok {} is d evs) (hnd : DistinctSeqnums evs)
    {a : Cmd} (ha : a ∈ handledCmds evs) (hc : c ∈ handledCmds evs) (hac : a.seqnum = c.seqnum) :
    a = c :=
  List.inj_on_of_nodup_map (nodup_handledCmds h hnd) ha hc hac

/-- **One place in the ledger**: a command that was handled waits once, or was answered once, or
was unlinked once. -/
theorem count_eq_one (h : (device info).RunWhere ok {} is d evs) (hnd : DistinctSeqnums evs)
    (hc : c ∈ handledCmds evs) :
    (waiting d).count c + (answered d).count c + ((unlinked evs).map Prod.snd).count c = 1 := by
  rw [count_ledger h c]
  exact List.count_eq_one_of_mem (List.Nodup.of_map _ (nodup_handledCmds h hnd)) hc

/-- Only commands that were handled are answered. -/
theorem mem_handledCmds_of_mem_answered (h : (device info).RunWhere ok {} is d evs)
    (hc : c ∈ answered d) : c ∈ handledCmds evs := by
  have hledger := count_ledger h c
  have hpos := List.count_pos_iff.mpr hc
  exact List.count_pos_iff.mp (by omega)

/-- The replies of a kind under the number of a command are the answers to it. -/
theorem length_filter_replies (h : (device info).RunWhere ok {} is d evs)
    (hnd : DistinctSeqnums evs) (hc : c ∈ handledCmds evs) {kind : UInt32}
    (hkind : ∀ r, Answer info c r → repCommand r = kind) :
    ((replies d).filter fun r => repCommand r == kind && repSeqnum r == c.seqnum).length
      = (answered d).count c := by
  rw [← List.countP_eq_length_filter, replies, List.countP_map, answered, List.count,
    List.countP_map]
  refine List.countP_congr fun p hp => ?_
  have hans := answer_of_mem_history h p hp
  have hp' := mem_handledCmds_of_mem_answered h (List.mem_map_of_mem hp)
  simp only [Function.comp_apply, Bool.and_eq_true, beq_iff_eq]
  constructor
  · rintro ⟨-, hseq⟩
    exact eq_of_seqnum_eq h hnd hp' hc (hans.repSeqnum.symm.trans hseq)
  · intro hpc
    rw [hpc] at hans
    exact ⟨hkind _ hans, hans.repSeqnum⟩

theorem length_retSubmits (h : (device info).RunWhere ok {} is d evs) (hnd : DistinctSeqnums evs)
    (hc : c ∈ handledCmds evs) (hsub : c.command = usbipCmdSubmit) :
    (retSubmits d c.seqnum).length = (answered d).count c := by
  refine length_filter_replies h hnd hc fun r hans => ?_
  rcases hans.repCommand with ⟨-, hr⟩ | ⟨hu, -⟩
  · exact hr
  · exact absurd (hsub.symm.trans hu) (by decide)

theorem length_retUnlinks (h : (device info).RunWhere ok {} is d evs) (hnd : DistinctSeqnums evs)
    (hc : c ∈ handledCmds evs) (hu : c.command = usbipCmdUnlink) :
    (retUnlinks d c.seqnum).length = (answered d).count c := by
  refine length_filter_replies h hnd hc fun r hans => ?_
  rcases hans.repCommand with ⟨hsub, -⟩ | ⟨-, hr⟩
  · exact absurd (hu.symm.trans hsub) (by decide)
  · exact hr

/-! ### The moment a command was handled -/

/-- The critical section of a run with the events `evs` that handled `c`: it led from `d₁` to
`d₂`, found the UNLINK target `t` waiting and returned `x`. -/
structure HandledAt (info : Info) (evs : List Event) (c : Cmd) (t : Option Cmd) (x : Option Xfer)
    (d₁ d₂ : Dev) : Prop where
  run : ∃ is₁ evs₁ evs₃, (device info).Run is₁ d₁ evs₁ ∧ evs = evs₁ ++ .handled c t x :: evs₃
  cmds : d₁.cmds = c :: d₂.cmds
  step : (device info).step d₁ .handle = some (d₂, [.handled c t x])

/-- An event of a run was emitted at a moment of it, and the history only grew since. -/
theorem exists_handledAt (h : (device info).Run is d evs) {t : Option Cmd} {x : Option Xfer}
    (hev : .handled c t x ∈ evs) :
    ∃ d₁ d₂, HandledAt info evs c t x d₁ d₂ ∧ t = unlinkTarget d₁ c ∧
      Handled info c { d₁ with cmds := d₂.cmds } d₂ x ∧ d₂.history <+: d.history := by
  obtain ⟨is₁, d₁, evs₁, op, d₂, os₂, is₃, evs₃, h₁, -, hs, hmem, h₃, rfl⟩ :=
    h.exists_step_of_mem hev
  have hwf₁ := wf_of_run .init h₁
  obtain ⟨ev, rfl, hd⟩ := step_spec hwf₁ hs
  obtain rfl : .handled c t x = ev := by simpa using hmem
  have hhist := history_isPrefix_of_run (hd.wf hwf₁) h₃
  cases hd with
  | @handle c cs d₂ x herr hcmds hh =>
    obtain rfl : d₂.cmds = cs := hh.err_cmds.2
    exact ⟨d₁, d₂, ⟨⟨is₁, evs₁, evs₃, h₁, by simp⟩, hcmds, hs⟩, rfl, hh, hhist⟩

theorem exists_mem_of_mem_handledCmds (hc : c ∈ handledCmds evs) :
    ∃ t x, .handled c t x ∈ evs := by
  obtain ⟨ev, hev, heq⟩ := List.mem_filterMap.mp hc
  cases ev with
  | handled c' t x =>
    obtain rfl : c' = c := by simpa using heq
    exact ⟨t, x, hev⟩
  | _ => simp at heq

theorem exists_mem_of_mem_unlinked {u : Cmd} (hc : (u, c) ∈ unlinked evs) :
    ∃ x, .handled u (some c) x ∈ evs := by
  obtain ⟨ev, hev, heq⟩ := List.mem_filterMap.mp hc
  cases ev with
  | handled u' t x =>
    cases t with
    | none => simp at heq
    | some t =>
      obtain ⟨rfl, rfl⟩ : u' = u ∧ t = c := by simpa using heq
      exact ⟨x, hev⟩
  | _ => simp at heq

/-- The commands that arrived in a part of a run have distinct numbers. -/
theorem DistinctSeqnums.of_append {evs' : List Event} (hnd : DistinctSeqnums (evs ++ evs')) :
    DistinctSeqnums evs := by
  rw [DistinctSeqnums, arrivals_append, List.map_append] at hnd
  exact hnd.of_append_left

/-- The target of an UNLINK waits before it and nowhere after it. -/
theorem HandledAt.target {u : Cmd} {x : Option Xfer} {d₁ d₂ : Dev} (hnd : DistinctSeqnums evs)
    (hat : HandledAt info evs u (some c) x d₁ d₂) (htarget : some c = unlinkTarget d₁ u) :
    u.command = usbipCmdUnlink ∧ c ∈ waiting d₁ ∧ c ∉ waiting d₂ := by
  have hu : u.command = usbipCmdUnlink := by
    by_contra hu
    rw [unlinkTarget, if_neg hu] at htarget
    cases htarget
  rw [unlinkTarget, if_pos hu] at htarget
  refine ⟨hu, List.mem_of_find?_eq_some htarget.symm, ?_⟩
  obtain ⟨is₁, evs₁, evs₃, h₁, rfl⟩ := hat.run
  -- the target is in the ledger as unlinked, so it is not waiting
  have h₂ := h₁.snoc trivial hat.step
  have hnd₂ : DistinctSeqnums (evs₁ ++ [.handled u (some c) x]) := by
    rw [← List.singleton_append, ← List.append_assoc] at hnd
    exact hnd.of_append
  have hpos : 0 < ((unlinked (evs₁ ++ [.handled u (some c) x])).map Prod.snd).count c := by
    simp [unlinked]
  have hledger := count_ledger h₂ c
  have hmem : c ∈ handledCmds (evs₁ ++ [.handled u (some c) x]) :=
    List.count_pos_iff.mp (by omega)
  have hone := count_eq_one h₂ hnd₂ hmem
  exact List.count_eq_zero.mp (by omega)

/-- The reply to an UNLINK. -/
theorem Handled.unlink_history {x : Option Xfer} (h : Handled info c d d' x)
    (hc : c.command = usbipCmdUnlink) :
    d'.history = d.history ++
      [(c, retUnlink c (if (waitingFor d c.unlinkSeqnum).isSome then -econnreset else 0))] := by
  have hne : ¬ c.command = usbipCmdSubmit := by rw [hc]; decide
  cases h with
  | standard hsub => exact absurd hsub hne
  | out hsub => exact absurd hsub hne
  | inTransfer hin => exact absurd (isInTransfer.submit hin).1 hne
  | unlink =>
    rw [← (eraseInCmd_spec d c.unlinkSeqnum).1]
    rfl

/-- The RET_UNLINK of an UNLINK that was handled. -/
theorem retUnlinks_eq (h : (device info).Run is d evs) (hnd : DistinctSeqnums evs) {u : Cmd}
    (hu : u.command = usbipCmdUnlink) {d₁ d₂ : Dev} {x : Option Xfer}
    (hhandled : u ∈ handledCmds evs) (hh : Handled info u { d₁ with cmds := d₂.cmds } d₂ x)
    (hhist : d₂.history <+: d.history) :
    retUnlinks d u.seqnum
      = [retUnlink u (if (waitingFor d₁ u.unlinkSeqnum).isSome then -econnreset else 0)] := by
  have hmem : (u, retUnlink u (if (waitingFor d₁ u.unlinkSeqnum).isSome then -econnreset else 0))
      ∈ d.history := by
    refine hhist.subset ?_
    rw [hh.unlink_history hu]
    exact List.mem_append_right _ (List.mem_singleton_self _)
  have hlen := length_retUnlinks h hnd hhandled hu
  have hone := count_eq_one h hnd hhandled
  have hpos : 0 < (answered d).count u := List.count_pos_iff.mpr (List.mem_map_of_mem hmem)
  -- there is one RET_UNLINK with this number, and the one that was enqueued is it
  obtain ⟨r, hr⟩ := List.length_eq_one_iff.mp (hlen.trans (by omega))
  have hmem' : retUnlink u (if (waitingFor d₁ u.unlinkSeqnum).isSome then -econnreset else 0)
      ∈ retUnlinks d u.seqnum := by
    refine List.mem_filter.mpr ⟨List.mem_map_of_mem hmem, ?_⟩
    simp
  rw [hr] at hmem' ⊢
  rw [List.mem_singleton.mp hmem']

/-! ### The three situations of a SUBMIT -/

/-- The command waits once, in one deque, and no reply carries its number. -/
structure Waits (d : Dev) (c : Cmd) : Prop where
  once : ∃ e, (d.inCmds e).count c = 1 ∧ ∀ e', e' ≠ e → c ∉ d.inCmds e'
  unanswered : ∀ r ∈ replies d, repSeqnum r ≠ c.seqnum

/-- One RET_SUBMIT carries the number of the command, and the command waits nowhere. -/
structure Completed (d : Dev) (c : Cmd) : Prop where
  once : (retSubmits d c.seqnum).length = 1
  nowhere : ∀ e, c ∉ d.inCmds e

/-- One UNLINK removed the command from a deque, its only RET_UNLINK carries `-ECONNRESET`, and no
RET_SUBMIT carries the number of the command, now or after any continuation of the run. -/
structure Unlinked (info : Info) (d : Dev) (evs : List Event) (c : Cmd) : Prop where
  once : ∃ u, (unlinked evs).filter (fun p => p.2 == c) = [(u, c)] ∧ u.command = usbipCmdUnlink ∧
    (∃ x d₁ d₂, HandledAt info evs u (some c) x d₁ d₂ ∧ c ∈ waiting d₁ ∧ c ∉ waiting d₂) ∧
    ∃ r, retUnlinks d u.seqnum = [r] ∧ repUnlinkStatus r = -econnreset
  never : ∀ is' d' evs', (device info).RunFrom d is' d' evs' → DistinctSeqnums (evs ++ evs') →
    retSubmits d' c.seqnum = []

/-- An UNLINK has one RET_UNLINK, whose status is zero exactly when nothing waited under the number
it names at the moment it was handled. -/
def UnlinkAnswered (info : Info) (d : Dev) (evs : List Event) (u : Cmd) : Prop :=
  ∃ t x d₁ d₂ r, HandledAt info evs u t x d₁ d₂ ∧ retUnlinks d u.seqnum = [r] ∧
    (repUnlinkStatus r = 0 ↔ ∀ e, ∀ c ∈ d₁.inCmds e, c.seqnum ≠ u.unlinkSeqnum)

/-- Exactly one of three propositions holds. -/
def ExactlyOne (p q r : Prop) : Prop :=
  (p ∧ ¬ q ∧ ¬ r) ∨ (¬ p ∧ q ∧ ¬ r) ∨ (¬ p ∧ ¬ q ∧ r)

theorem waits_of_mem (h : (device info).Run is d evs) (hnd : DistinctSeqnums evs)
    (hc : c ∈ handledCmds evs) (hw : c ∈ waiting d) : Waits d c := by
  have hwf := wf_of_run .init h
  have hone := count_eq_one h hnd hc
  have hpos := List.count_pos_iff.mpr hw
  obtain ⟨e, he⟩ := mem_waiting.mp hw
  have hcount := count_flatMap_setDeque d.inCmds e [] c
  have hpos' := List.count_pos_iff.mpr he
  refine ⟨⟨e, ?_, fun e' hne he' => hne ?_⟩, fun r hr hseq => ?_⟩
  · simp only [waiting, List.count_nil] at hone hcount
    omega
  -- the endpoint number of the command decides where it waits
  · exact isInTransfer.unique (hwf.inTransfer e' c he') (hwf.inTransfer e c he)
  · obtain ⟨p, hp, rfl⟩ := List.mem_map.mp hr
    have hans := answer_of_mem_history h p hp
    have hp' := List.mem_map_of_mem (f := Prod.fst) hp
    have heq := eq_of_seqnum_eq h hnd (mem_handledCmds_of_mem_answered h hp') hc
      (hans.repSeqnum.symm.trans hseq)
    have hpos'' : 0 < (answered d).count c := List.count_pos_iff.mpr (heq ▸ hp')
    omega

theorem completed_of_mem (h : (device info).Run is d evs) (hnd : DistinctSeqnums evs)
    (hc : c ∈ handledCmds evs) (hsub : c.command = usbipCmdSubmit) (ha : c ∈ answered d) :
    Completed d c := by
  have hone := count_eq_one h hnd hc
  have hpos := List.count_pos_iff.mpr ha
  have hlen := length_retSubmits h hnd hc hsub
  have hnot : c ∉ waiting d := List.count_eq_zero.mp (by omega)
  exact ⟨by omega, fun e he => hnot (mem_waiting.mpr ⟨e, he⟩)⟩

/-- A list with one member. -/
theorem eq_singleton_of_mem {α : Type} {l : List α} {a : α} (hlen : l.length = 1) (ha : a ∈ l) :
    l = [a] := by
  obtain ⟨b, rfl⟩ := List.length_eq_one_iff.mp hlen
  rw [List.mem_singleton.mp ha]

theorem unlinked_of_mem (h : (device info).Run is d evs) (hnd : DistinctSeqnums evs)
    (hc : c ∈ handledCmds evs) (hsub : c.command = usbipCmdSubmit)
    (hu : c ∈ (unlinked evs).map Prod.snd) : Unlinked info d evs c := by
  have hone := count_eq_one h hnd hc
  have hpos := List.count_pos_iff.mpr hu
  refine ⟨?_, fun is' d' evs' h' hnd' => ?_⟩
  · obtain ⟨⟨u, c'⟩, hmem, hc'⟩ := List.mem_map.mp hu
    obtain rfl : c' = c := hc'
    obtain ⟨x, hev⟩ := exists_mem_of_mem_unlinked hmem
    obtain ⟨d₁, d₂, hat, htarget, hh, hhist⟩ := exists_handledAt h hev
    obtain ⟨hucmd, hbefore, hafter⟩ := hat.target hnd htarget
    have hu' : u ∈ handledCmds evs := List.mem_filterMap.mpr ⟨_, hev, rfl⟩
    have hret := retUnlinks_eq h hnd hucmd hu' hh hhist
    rw [unlinkTarget, if_pos hucmd] at htarget
    refine ⟨u, ?_, hucmd, ⟨x, d₁, d₂, hat, hbefore, hafter⟩, _, hret, ?_⟩
    · refine eq_singleton_of_mem ?_ (List.mem_filter.mpr ⟨hmem, beq_self_eq_true _⟩)
      have hcount : ((unlinked evs).map Prod.snd).count c'
          = ((unlinked evs).filter fun p => p.2 == c').length := by
        rw [List.count, List.countP_map, List.countP_eq_length_filter]
        rfl
      omega
    · rw [repUnlinkStatus_retUnlink, ← htarget]
      rfl
  · -- the command stays in the ledger as unlinked
    have htot := h.trans h'
    have hc' : c ∈ handledCmds (evs ++ evs') := by
      rw [handledCmds_append]
      exact List.mem_append_left _ hc
    have hone' := count_eq_one htot hnd' hc'
    have hlen := length_retSubmits htot hnd' hc' hsub
    rw [unlinked_append, List.map_append, List.count_append] at hone'
    exact List.length_eq_zero_iff.mp (by omega)

theorem unlinkAnswered_of_mem (h : (device info).Run is d evs) (hnd : DistinctSeqnums evs) {u : Cmd}
    (hu : u ∈ handledCmds evs) (hucmd : u.command = usbipCmdUnlink) :
    UnlinkAnswered info d evs u := by
  obtain ⟨t, x, hev⟩ := exists_mem_of_mem_handledCmds hu
  obtain ⟨d₁, d₂, hat, -, hh, hhist⟩ := exists_handledAt h hev
  refine ⟨t, x, d₁, d₂, _, hat, retUnlinks_eq h hnd hucmd hu hh hhist, ?_⟩
  rw [repUnlinkStatus_retUnlink]
  cases hw : waitingFor d₁ u.unlinkSeqnum with
  | none =>
    have hnone := List.find?_eq_none.mp hw
    simp only [Option.isSome_none, Bool.false_eq_true, ↓reduceIte, true_iff]
    intro e c hc hseq
    exact hnone c (mem_waiting.mpr ⟨e, hc⟩) (beq_iff_eq.mpr hseq)
  | some c =>
    obtain ⟨e, he⟩ := mem_waiting.mp (List.mem_of_find?_eq_some hw)
    have hfound := List.find?_some hw
    have hseq : c.seqnum = u.unlinkSeqnum := beq_iff_eq.mp hfound
    have hstatus : ¬ (-econnreset = (0 : Int32)) := by decide
    simp only [Option.isSome_some, ↓reduceIte, hstatus, false_iff]
    exact fun hall => hall e c he hseq

/-- **Exactly-once completion.**  In every run in which the commands that arrive have distinct
numbers and no error was raised: every SUBMIT taken from `cmds` waits, was completed or was
unlinked, exactly one of these; every UNLINK taken from `cmds` has one RET_UNLINK; and every reply
is the RET_SUBMIT of a SUBMIT or the RET_UNLINK of an UNLINK taken from `cmds`. -/
theorem exactly_once (h : (device info).Run is d evs) (hnd : DistinctSeqnums evs)
    (herr : d.err = none) :
    (∀ c ∈ popped evs, c.command = usbipCmdSubmit →
      ExactlyOne (Waits d c) (Completed d c) (Unlinked info d evs c)) ∧
    (∀ u ∈ popped evs, u.command = usbipCmdUnlink → UnlinkAnswered info d evs u) ∧
    ∀ r ∈ replies d, ∃ c ∈ popped evs, repSeqnum r = c.seqnum ∧
      (c.command = usbipCmdSubmit ∧ repCommand r = usbipRetSubmit ∨
        c.command = usbipCmdUnlink ∧ repCommand r = usbipRetUnlink) := by
  rw [popped_eq_handledCmds .init h herr]
  refine ⟨fun c hc hsub => ?_, fun u hu hucmd => unlinkAnswered_of_mem h hnd hu hucmd, ?_⟩
  · have hone := count_eq_one h hnd hc
    have hlen := length_retSubmits h hnd hc hsub
    -- the three situations exclude each other
    have hwc : Waits d c → Completed d c → False := by
      rintro ⟨⟨e, he, -⟩, -⟩ hcomp
      exact hcomp.nowhere e (List.count_pos_iff.mp (by omega))
    have hwu : Waits d c → Unlinked info d evs c → False := by
      rintro ⟨⟨e, he, -⟩, -⟩ ⟨⟨u, hfilter, -⟩, -⟩
      have hmem : (u, c) ∈ unlinked evs :=
        List.mem_of_mem_filter (hfilter ▸ List.mem_singleton_self _)
      have hu := List.count_pos_iff.mpr (List.mem_map_of_mem (f := Prod.snd) hmem)
      have hw := List.count_pos_iff.mpr
        (mem_waiting.mpr ⟨e, List.count_pos_iff.mp (show 0 < (d.inCmds e).count c by omega)⟩)
      simp only at hu
      omega
    have hcu : Completed d c → Unlinked info d evs c → False := by
      intro hcomp hunl
      have hnil := hunl.never [] d [] .nil (by simpa using hnd)
      have honce := hcomp.once
      rw [hnil] at honce
      cases honce
    have hsome : Waits d c ∨ Completed d c ∨ Unlinked info d evs c := by
      by_cases hw : c ∈ waiting d
      · exact Or.inl (waits_of_mem h hnd hc hw)
      · by_cases ha : c ∈ answered d
        · exact Or.inr (Or.inl (completed_of_mem h hnd hc hsub ha))
        · rw [List.count_eq_zero.mpr hw, List.count_eq_zero.mpr ha] at hone
          exact Or.inr (Or.inr (unlinked_of_mem h hnd hc hsub
            (List.count_pos_iff.mp (by omega))))
    unfold ExactlyOne
    tauto
  · intro r hr
    obtain ⟨p, hp, rfl⟩ := List.mem_map.mp hr
    have hans := answer_of_mem_history h p hp
    exact ⟨p.1, mem_handledCmds_of_mem_answered h (List.mem_map_of_mem hp), hans.repSeqnum,
      hans.repCommand⟩

/-- A SUBMIT that waits is unlinked. -/
def unlinkRun : List Op :=
  [.arrive (.submit 1 usbipDirIn 1 8), .handle, .arrive (.unlink 2 1), .handle]

theorem unlinkRun_isSome : ((device .minimal).exec unlinkRun).isSome = true := by decide

theorem exactly_once_unlinkRun :
    ExactlyOne
      (Waits (((device .minimal).exec unlinkRun).get unlinkRun_isSome).1 (.submit 1 usbipDirIn 1 8))
      (Completed (((device .minimal).exec unlinkRun).get unlinkRun_isSome).1
        (.submit 1 usbipDirIn 1 8))
      (Unlinked .minimal (((device .minimal).exec unlinkRun).get unlinkRun_isSome).1
        (((device .minimal).exec unlinkRun).get unlinkRun_isSome).2 (.submit 1 usbipDirIn 1 8)) :=
  (exactly_once (run_exec_get unlinkRun_isSome) (by decide) (by decide)).1 _ (by decide)
    (by decide)

end VirtualUSB

import VirtualUSB.Device.Equiv.Waiting

/-!
# IN transfers

`EndpointStep` is what a critical section does to one endpoint: a request arrives and the endpoint
is drained, a buffer arrives and it is drained, an UNLINK erases a request, or nothing happens.

* `order_independence`: the replies of an endpoint and what is left in its deques depend only on
  the requests and the buffers that arrived for it, not on how they were interleaved or on the
  other endpoints.
* `stream_conservation`: the bytes that were sent, followed by those still to be sent, are the
  bytes that were written; a reply never carries bytes of two buffers; requests are answered in
  order.
-/

namespace VirtualUSB

open LabelledSystem GreedyMatch

variable {info : Info} {c : Cmd} {d d' : Dev} {e : EpIdx}

/-! ### One endpoint -/

/-- The requests of an endpoint that were removed by an UNLINK, in order. -/
def unlinkedOn (e : EpIdx) (evs : List Event) : List Cmd :=
  ((unlinked evs).map Prod.snd).filter (isInTransfer e)

@[simp] theorem unlinkedOn_append (e : EpIdx) (evs evs' : List Event) :
    unlinkedOn e (evs ++ evs') = unlinkedOn e evs ++ unlinkedOn e evs' := by
  simp [unlinkedOn]

/-- What a critical section that emits `ev` does to the endpoint `e`. -/
inductive EndpointStep (e : EpIdx) (d d' : Dev) (ev : Event) : Prop
  /-- The request `c` arrives and the endpoint is drained. -/
  | request (c : Cmd) (hqueued : queued e [ev] = [c]) (hwritten : written e [ev] = [])
      (hunlinked : unlinkedOn e [ev] = [])
      (hsent : sent e d' = sent e d ++ (drain serve (d.inCmds e ++ [c]) (d.inData e)).1)
      (hleft : (d'.inCmds e, d'.inData e) = (drain serve (d.inCmds e ++ [c]) (d.inData e)).2)
  /-- The buffer `b` arrives and the endpoint is drained. -/
  | item (b : List UInt8) (hqueued : queued e [ev] = []) (hwritten : written e [ev] = [b])
      (hunlinked : unlinkedOn e [ev] = [])
      (hsent : sent e d' = sent e d ++
        (drain serve (d.inCmds e) (d.inData e ++ [{ data := b }])).1)
      (hleft : (d'.inCmds e, d'.inData e)
        = (drain serve (d.inCmds e) (d.inData e ++ [{ data := b }])).2)
  /-- An UNLINK erases at most one request. -/
  | erase (hev : ∃ c t x, ev = .handled c t x ∧ c.command = usbipCmdUnlink)
      (hqueued : queued e [ev] = []) (hwritten : written e [ev] = [])
      (hsent : sent e d' = sent e d) (hdata : d'.inData e = d.inData e)
      (hsub : (d'.inCmds e).Sublist (d.inCmds e))
      (hperm : (d'.inCmds e ++ unlinkedOn e [ev]).Perm (d.inCmds e))
  /-- The endpoint is left alone. -/
  | other (hqueued : queued e [ev] = []) (hwritten : written e [ev] = [])
      (hunlinked : unlinkedOn e [ev] = []) (hsent : sent e d' = sent e d)
      (hcmds : d'.inCmds e = d.inCmds e) (hdata : d'.inData e = d.inData e)

/-- The answers of draining an endpoint belong to it. -/
theorem sent_drained (e e' : EpIdx) (hin : ∀ c ∈ d.inCmds e', isInTransfer e' c = true) :
    sent e (d.drained e') = sent e d ++
      if e = e' then (drain serve (d.inCmds e') (d.inData e')).1 else [] := by
  have hall : ∀ p ∈ (drain serve (d.inCmds e') (d.inData e')).1, isInTransfer e' p.1 = true :=
    forall_mem_drain (P := fun c => isInTransfer e' c = true)
      (Q := fun (p : Cmd × Rep) => isInTransfer e' p.1 = true)
      (fun _ _ hc => hc) hin _
  rw [sent, Dev.drained_history, List.filter_append, sent]
  congr 1
  split_ifs with he
  · subst he
    exact List.filter_eq_self.mpr hall
  · refine List.filter_eq_nil_iff.mpr fun p hp hin' => he ?_
    exact isInTransfer.unique hin' (hall p hp)

/-- A reply outside the matcher belongs to no endpoint. -/
theorem sent_enqueue {rep : Rep} {status : Int32} (hc : isInTransfer e c = false) :
    sent e (enqueue c rep status d) = sent e d := by
  simp [sent, enqueue, hc]

theorem isInTransfer_of_isStandard (h : isStandard c = true) : isInTransfer e c = false := by
  simp only [isStandard] at h
  simp [isInTransfer, h]

theorem isInTransfer_of_ne_submit (h : c.command ≠ usbipCmdSubmit) :
    isInTransfer e c = false := by
  simp [isInTransfer, h]

theorem isInTransfer_of_out (h : c.direction = usbipDirOut) : isInTransfer e c = false := by
  have hne : ¬ usbipDirOut = usbipDirIn := by decide
  simp [isInTransfer, h, hne]

theorem queued_handled (hc : isInTransfer e c = false) (t : Option Cmd) (x : Option Xfer) :
    queued e [.handled c t x] = [] := by
  simp [queued, handledCmds, hc]

theorem unlinkedOn_submit (hc : c.command = usbipCmdSubmit) (x : Option Xfer) :
    unlinkedOn e [.handled c (unlinkTarget d c) x] = [] := by
  have hne : ¬ c.command = usbipCmdUnlink := by rw [hc]; decide
  rw [unlinkTarget, if_neg hne]
  rfl

/-- What an UNLINK does to one endpoint. -/
theorem perm_eraseInCmd (hwf : d.Wf) (e : EpIdx) (n : UInt32) :
    ((eraseInCmd d.inCmds n).2 e ++ (waitingFor d n).toList.filter (isInTransfer e)).Perm
      (d.inCmds e) := by
  refine List.perm_iff_count.mpr fun a => ?_
  rw [List.count_append]
  by_cases ha : isInTransfer e a = true
  · have hwf' : Dev.Wf { d with inCmds := (eraseInCmd d.inCmds n).2 } :=
      hwf.eraseInCmd n
    have htotal := count_waiting_eraseInCmd d n a
    have hbefore := count_waiting_of_isInTransfer hwf ha
    have hafter := count_waiting_of_isInTransfer hwf' ha
    rw [List.count_filter ha]
    simp only [waiting] at htotal hbefore hafter
    omega
  · -- commands of other endpoints do not occur at all
    have hnot : ∀ l : List Cmd, (∀ c ∈ l, isInTransfer e c = true) → l.count a = 0 :=
      fun l hl => List.count_eq_zero.mpr fun hmem => ha (hl a hmem)
    rw [hnot _ (fun c hc => hwf.inTransfer e c (mem_eraseInCmd hc)),
      hnot _ (fun c hc => (List.mem_filter.mp hc).2), hnot _ (hwf.inTransfer e)]

theorem sublist_eraseInCmd (f : EpIdx → List Cmd) (n : UInt32) (e : EpIdx) :
    ((eraseInCmd f n).2 e).Sublist (f e) := by
  unfold eraseInCmd
  split
  · rename_i e' _
    by_cases hee : e = e'
    · subst hee
      simpa using List.eraseP_sublist
    · simp [setDeque_of_ne _ _ hee]
  · exact List.Sublist.refl _

/-- An IN transfer that is handled is a request for its own endpoint only. -/
theorem endpointStep_inTransfer (hwf : d.Wf) {e' : EpIdx} (hin : isInTransfer e' c = true)
    (cs : List Cmd) (e : EpIdx) :
    EndpointStep e d ((Dev.pushCmd { d with cmds := cs } e' c).drained e')
      (.handled c (unlinkTarget d c) none) := by
  have hc := (isInTransfer.submit hin).1
  have hpush : ∀ a ∈ (Dev.pushCmd { d with cmds := cs } e' c).inCmds e',
      isInTransfer e' a = true := Dev.forall_mem_pushCmd (hwf.inTransfer e') hin
  have hsent := sent_drained e e' hpush
  -- only the deques of its own endpoint change
  by_cases hee : e = e'
  · subst hee
    rw [if_pos rfl, Dev.pushCmd_inCmds_self] at hsent
    refine .request c (by simp [queued, handledCmds, hin]) rfl (unlinkedOn_submit hc _) hsent ?_
    simp
  · rw [if_neg hee, List.append_nil] at hsent
    have hnot : isInTransfer e c = false := by
      rw [Bool.eq_false_iff]
      exact fun h => hee (isInTransfer.unique h hin)
    refine .other (queued_handled hnot _ _) rfl (unlinkedOn_submit hc _) hsent ?_ ?_
    · rw [Dev.drained_inCmds_of_ne hee, Dev.pushCmd_inCmds_of_ne hee]
    · rw [Dev.drained_inData_of_ne hee]
      rfl

/-- An UNLINK erases a request of one endpoint at most. -/
theorem endpointStep_unlink (hwf : d.Wf) (hc : c.command = usbipCmdUnlink) (cs : List Cmd)
    (rep : Rep) (status : Int32) (e : EpIdx) :
    EndpointStep e d
      (enqueue c rep status { d with cmds := cs, inCmds := (eraseInCmd d.inCmds c.unlinkSeqnum).2 })
      (.handled c (unlinkTarget d c) none) := by
  have hin : isInTransfer e c = false := isInTransfer_of_ne_submit (by rw [hc]; decide)
  have htarget : unlinkedOn e [.handled c (unlinkTarget d c) none]
      = (waitingFor d c.unlinkSeqnum).toList.filter (isInTransfer e) := by
    rw [unlinkTarget, if_pos hc]
    cases waitingFor d c.unlinkSeqnum <;> rfl
  refine .erase ⟨_, _, _, rfl, hc⟩ (queued_handled hin _ _) rfl (sent_enqueue hin) rfl
    (sublist_eraseInCmd _ _ _) ?_
  rw [htarget]
  exact perm_eraseInCmd hwf e c.unlinkSeqnum

/-- A buffer that is written arrives at its own endpoint only. -/
theorem endpointStep_write (hwf : d.Wf) (e' : EpIdx) (data : List UInt8) (e : EpIdx) :
    EndpointStep e d ((d.pushData e' data).drained e') (.wrote e' data) := by
  have hsent := sent_drained (d := d.pushData e' data) e e' (hwf.inTransfer _)
  by_cases hee : e = e'
  · subst hee
    rw [if_pos rfl, Dev.pushData_inData_self] at hsent
    exact .item data rfl (by simp [written]) rfl hsent (by simp)
  · rw [if_neg hee, List.append_nil] at hsent
    refine .other rfl (by simp [written, Ne.symm hee]) rfl hsent ?_ ?_
    · rw [Dev.drained_inCmds_of_ne hee]
      rfl
    · rw [Dev.drained_inData_of_ne hee, Dev.pushData_inData_of_ne hee]

/-- **Every critical section does one of these things to an endpoint.** -/
theorem endpointStep (hwf : d.Wf) {op : Op} {ev : Event} (h : DevStep info d op d' ev)
    (e : EpIdx) : EndpointStep e d d' ev := by
  cases h with
  | @handle c cs _ x _ _ hh =>
    cases hh with
    | standard hc hstd =>
      have hin : isInTransfer e c = false := isInTransfer_of_isStandard hstd
      exact .other (queued_handled hin _ _) rfl (unlinkedOn_submit hc _) (sent_enqueue hin) rfl rfl
    | out hc _ hdir =>
      have hin : isInTransfer e c = false := isInTransfer_of_out hdir
      exact .other (queued_handled hin _ _) rfl (unlinkedOn_submit hc _) (sent_enqueue hin) rfl rfl
    | inTransfer hin => exact endpointStep_inTransfer hwf hin cs e
    | unlink hc => exact endpointStep_unlink hwf hc cs _ _ e
  | write => exact endpointStep_write hwf _ _ e
  | fail => exact .other rfl rfl rfl (by simp [sent]) (by simp) (by simp)
  | _ => exact .other rfl rfl rfl rfl rfl rfl

/-! ### Order independence -/

variable {ok : Dev → Op → Prop} {is is' : List Op} {evs evs' : List Event}

/-- No UNLINK was handled. -/
def NoUnlink (evs : List Event) : Prop :=
  ∀ c ∈ handledCmds evs, c.command ≠ usbipCmdUnlink

/-- Without UNLINKs, an endpoint is what is got by draining everything that arrived at once. -/
theorem drained_of_run (h : (device info).RunWhere ok {} is d evs) (hno : NoUnlink evs)
    (e : EpIdx) :
    Drained serve (queued e evs) ((written e evs).map fun b => { data := b }) (sent e d)
      (d.inCmds e) (d.inData e) := by
  refine (run_induction (P := fun d evs => NoUnlink evs → Drained serve (queued e evs)
    ((written e evs).map fun b => { data := b }) (sent e d) (d.inCmds e) (d.inData e)) .init
    (fun _ => .nil) ?_ h).2 hno
  intro d evs op d' ev hwf hP _ hs hno
  have ih := hP fun c hc => hno c (by simp [hc])
  rw [queued_append, written_append]
  rcases endpointStep hwf hs e with ⟨c, hq, hw, -, hsent, hleft⟩ | ⟨b, hq, hw, -, hsent, hleft⟩ |
    ⟨⟨c, t, x, rfl, hc⟩, -⟩ | ⟨hq, hw, -, hsent, hcmds, hdata⟩
  · have hreq := ih.request c
    rw [hq, hw, hsent, List.append_nil]
    rwa [← hleft] at hreq
  · have hitem := ih.item { data := b }
    rw [hq, hw, hsent, List.append_nil, List.map_append]
    rwa [← hleft] at hitem
  -- there is no UNLINK
  · exact absurd hc (hno c (by simp [handledCmds]))
  · rwa [hq, hw, hsent, hcmds, hdata, List.append_nil, List.append_nil]

/-- The number and the length of a request. -/
def requestKey (c : Cmd) : UInt32 × Int32 :=
  (c.seqnum, c.transferBufferLength)

/-- The number and the payload of a reply. -/
def replyKey (p : Cmd × Rep) : UInt32 × List UInt8 :=
  (repSeqnum p.2, p.2.payload)

/-- Serving a request of which only the number and the length are known. -/
def serveKey (k : UInt32 × Int32) (x : Data) : (UInt32 × List UInt8) × Option Data :=
  let n := min (sizeOfInt32 k.2) (x.len - x.off)
  ((k.1, x.unsent.take n), if x.off + n = x.len then none else some { x with off := x.off + n })

theorem serveKey_requestKey (c : Cmd) (x : Data) :
    serveKey (requestKey c) x = (replyKey (serve c x).1, (serve c x).2) := by
  simp only [serveKey, requestKey, replyKey, serve, repSeqnum_retSubmit]
  rfl

/-- **Order independence of IN transfers.**  In two runs without UNLINKs in which the same requests
(by number and length) and the same buffers arrived for an endpoint, in whatever way they were
interleaved with each other and with the traffic of other endpoints, the replies of the endpoint
have the same numbers and payloads in the same order, the same requests are still waiting, and the
data still to be sent is the same, item by item and with the same offsets.  If the requests are
equal, so are the replies and the waiting requests. -/
theorem order_independence (h : (device info).Run is d evs) (h' : (device info).Run is' d' evs')
    (hno : NoUnlink evs) (hno' : NoUnlink evs') (e : EpIdx)
    (hqueued : (queued e evs).map requestKey = (queued e evs').map requestKey)
    (hwritten : written e evs = written e evs') :
    (sent e d).map replyKey = (sent e d').map replyKey ∧
      (d.inCmds e).map requestKey = (d'.inCmds e).map requestKey ∧
      d.inData e = d'.inData e ∧
      (queued e evs = queued e evs' → sent e d = sent e d' ∧ d.inCmds e = d'.inCmds e) := by
  have hd := drained_of_run h hno e
  have hd' := drained_of_run h' hno' e
  rw [← hwritten] at hd'
  -- the matcher looks at a request through its number and length only
  have hkey := drain_map serveKey_requestKey (queued e evs)
    ((written e evs).map fun b => ({ data := b } : Data))
  have hkey' := drain_map serveKey_requestKey (queued e evs')
    ((written e evs).map fun b => ({ data := b } : Data))
  unfold Drained at hd hd'
  rw [hd] at hkey
  rw [hd', ← hqueued, hkey] at hkey'
  obtain ⟨hsent, hcmds, hdata⟩ : (sent e d).map replyKey = (sent e d').map replyKey ∧
      (d.inCmds e).map requestKey = (d'.inCmds e).map requestKey ∧ d.inData e = d'.inData e := by
    simpa using hkey'
  refine ⟨hsent, hcmds, hdata, fun heq => ?_⟩
  rw [← heq, hd] at hd'
  obtain ⟨hsent', hcmds', -⟩ : sent e d = sent e d' ∧ d.inCmds e = d'.inCmds e ∧
      d.inData e = d'.inData e := by simpa using hd'
  exact ⟨hsent', hcmds'⟩

/-- The request arrives first, or the buffer does. -/
def requestFirst : List Op := [.arrive (.submit 1 usbipDirIn 1 8), .handle, .write 0x81 [7]]

def bufferFirst : List Op := [.write 0x81 [7], .arrive (.submit 1 usbipDirIn 1 8), .handle]

theorem requestFirst_isSome : ((device .minimal).exec requestFirst).isSome = true := by decide

theorem bufferFirst_isSome : ((device .minimal).exec bufferFirst).isSome = true := by decide

instance (evs : List Event) : Decidable (NoUnlink evs) :=
  inferInstanceAs (Decidable (∀ c ∈ handledCmds evs, c.command ≠ usbipCmdUnlink))

theorem order_independence_requestFirst :
    (sent 1 (((device .minimal).exec requestFirst).get requestFirst_isSome).1).map replyKey
      = (sent 1 (((device .minimal).exec bufferFirst).get bufferFirst_isSome).1).map replyKey :=
  (order_independence (run_exec_get requestFirst_isSome) (run_exec_get bufferFirst_isSome)
    (by decide) (by decide) 1 (by decide) (by decide)).1

/-! ### Conservation -/

theorem serve_unsent_some (c : Cmd) (x x' : Data) (h : (serve c x).2 = some x') :
    x.unsent = (serve c x).1.2.payload ++ x'.unsent := by
  have hlen : x.unsent.length = x.len - x.off := List.length_drop
  simp only [serve] at h ⊢
  split_ifs at h with hend
  obtain rfl := Option.some.inj h
  simp only [retSubmit, Data.unsent]
  rw [← List.drop_drop, List.take_append_drop]

theorem serve_unsent_none (c : Cmd) (x : Data) (h : (serve c x).2 = none) :
    x.unsent = (serve c x).1.2.payload := by
  have hlen : x.unsent.length = x.len - x.off := List.length_drop
  simp only [serve] at h ⊢
  split_ifs at h with hend
  simp only [retSubmit]
  rw [List.take_of_length_le (by omega)]

/-- The payloads sent so far are cut one after the other from the buffers that were written, and
the unsent data is what is left of them. -/
theorem cut_of_run (h : (device info).RunWhere ok {} is d evs) (e : EpIdx) :
    Cut (written e evs) ((sent e d).map fun p => p.2.payload) ((d.inData e).map Data.unsent) := by
  refine (run_induction (P := fun d evs => Cut (written e evs)
    ((sent e d).map fun p => p.2.payload) ((d.inData e).map Data.unsent)) .init .nil ?_ h).2
  intro d evs op d' ev hwf hP _ hs
  have hdrain : ∀ (bs : List (List UInt8)) (cs : List Cmd) (xs : List Data),
      Cut bs ((sent e d).map fun p => p.2.payload) (xs.map Data.unsent) →
      Cut bs ((sent e d ++ (drain serve cs xs).1).map fun p => p.2.payload)
        ((drain serve cs xs).2.2.map Data.unsent) := by
    intro bs cs xs hcut
    rw [List.map_append]
    exact Cut.drain serve_unsent_some serve_unsent_none cs xs hcut
  rw [written_append]
  rcases endpointStep hwf hs e with ⟨c, -, hw, -, hsent, hleft⟩ | ⟨b, -, hw, -, hsent, hleft⟩ |
    ⟨-, -, hw, hsent, hdata, -, -⟩ | ⟨-, hw, -, hsent, -, hdata⟩
  · have hreq := hdrain _ (d.inCmds e ++ [c]) _ hP
    rw [← hleft] at hreq
    rwa [hw, hsent, List.append_nil]
  · have hbuf : Cut (written e evs ++ [b]) ((sent e d).map fun p => p.2.payload)
        ((d.inData e ++ [({ data := b } : Data)]).map Data.unsent) := by
      rw [List.map_append]
      exact hP.buffer b
    have hitem := hdrain _ (d.inCmds e) _ hbuf
    rw [← hleft] at hitem
    rwa [hw, hsent]
  · rwa [hw, hsent, hdata, List.append_nil]
  · rwa [hw, hsent, hdata, List.append_nil]

/-- The requests of an endpoint that were answered, followed by those that wait, are those that
arrived, in order, without the unlinked ones. -/
theorem requests_of_run (h : (device info).RunWhere ok {} is d evs) (e : EpIdx) :
    ((sent e d).map Prod.fst ++ d.inCmds e).Sublist (queued e evs) ∧
      ((sent e d).map Prod.fst ++ d.inCmds e ++ unlinkedOn e evs).Perm (queued e evs) := by
  refine (run_induction (P := fun d evs =>
    ((sent e d).map Prod.fst ++ d.inCmds e).Sublist (queued e evs) ∧
      ((sent e d).map Prod.fst ++ d.inCmds e ++ unlinkedOn e evs).Perm (queued e evs))
    .init ⟨.slnil, .nil⟩ ?_ h).2
  rintro d evs op d' ev hwf ⟨hsub, hperm⟩ - hs
  have htag : ∀ c x, Prod.fst (serve c x).1 = id c := fun _ _ => rfl
  rw [queued_append, unlinkedOn_append]
  rcases endpointStep hwf hs e with ⟨c, hq, -, hu, hsent, hleft⟩ | ⟨b, hq, -, hu, hsent, hleft⟩ |
    ⟨-, hq, -, hsent, -, hsub', hperm'⟩ | ⟨hq, -, hu, hsent, hcmds, -⟩
  · have htags := drain_tags htag (d.inCmds e ++ [c]) (d.inData e)
    rw [← hleft] at htags
    simp only [List.map_id] at htags
    -- answered and waiting requests form one line, which the request joins at its end
    have hline : (sent e d').map Prod.fst ++ d'.inCmds e
        = (sent e d).map Prod.fst ++ d.inCmds e ++ [c] := by
      rw [hsent, List.map_append, List.append_assoc, htags, List.append_assoc]
    rw [hline, hq, hu, List.append_nil]
    refine ⟨hsub.append_right [c], List.perm_iff_count.mpr fun a => ?_⟩
    have hcount := hperm.count_eq a
    simp only [List.count_append] at hcount ⊢
    omega
  · have htags := drain_tags htag (d.inCmds e) (d.inData e ++ [{ data := b }])
    rw [← hleft] at htags
    simp only [List.map_id] at htags
    -- a buffer moves requests from one side of the line to the other
    have hline : (sent e d').map Prod.fst ++ d'.inCmds e
        = (sent e d).map Prod.fst ++ d.inCmds e := by
      rw [hsent, List.map_append, List.append_assoc, htags]
    rw [hline, hq, hu, List.append_nil, List.append_nil]
    exact ⟨hsub, hperm⟩
  · rw [hsent, hq, List.append_nil]
    refine ⟨(hsub'.append_left _).trans hsub, List.perm_iff_count.mpr fun a => ?_⟩
    have hcount := hperm.count_eq a
    have hcount' := hperm'.count_eq a
    simp only [List.count_append] at hcount hcount' ⊢
    omega
  · rw [hsent, hcmds, hq, hu, List.append_nil, List.append_nil]
    exact ⟨hsub, hperm⟩

/-- An endpoint that nothing is written to answers nothing. -/
theorem sent_eq_nil (h : (device info).Run is d evs) (hw : written e evs = []) : sent e d = [] := by
  refine List.eq_nil_iff_forall_not_mem.mpr fun p hp => ?_
  obtain ⟨b, hb, -⟩ := (cut_of_run h e).isInfix_of_mem _
    (List.mem_map_of_mem (f := fun p : Cmd × Rep => p.2.payload) hp)
  rw [hw] at hb
  cases hb

/-- **Conservation of the IN streams.**  In every reachable state and for every endpoint:
the payloads sent, followed by the unsent data, are the buffers that `write()` took; reply `i`
carries bytes of one buffer `j` only; the answered requests and then the waiting ones are the
requests that arrived, in order, without those removed by an UNLINK. -/
theorem stream_conservation (h : (device info).Run is d evs) (e : EpIdx) :
    ((sent e d).map fun p => p.2.payload).flatten ++ ((d.inData e).map Data.unsent).flatten
        = (written e evs).flatten ∧
      (∀ i, i < (sent e d).length → ∃ j, j < (written e evs).length ∧
        ((written e evs).take j).flatten.length
            ≤ (((sent e d).map fun p => p.2.payload).take i).flatten.length ∧
        (((sent e d).map fun p => p.2.payload).take (i + 1)).flatten.length
            ≤ ((written e evs).take (j + 1)).flatten.length) ∧
      (∀ p ∈ sent e d, ∃ b ∈ written e evs, p.2.payload <:+: b) ∧
      ((sent e d).map Prod.fst ++ d.inCmds e).Sublist (queued e evs) ∧
      ((sent e d).map Prod.fst ++ d.inCmds e ++ unlinkedOn e evs).Perm (queued e evs) ∧
      (queued e evs).Sublist (arrivals evs) := by
  have hcut := cut_of_run h e
  obtain ⟨hsub, hperm⟩ := requests_of_run h e
  refine ⟨hcut.conserve, fun i hi => hcut.inside (by simpa using hi), fun p hp => ?_, hsub, hperm,
    List.filter_sublist.trans (handledCmds_sublist_arrivals h)⟩
  exact hcut.isInfix_of_mem _ (List.mem_map_of_mem (f := fun p : Cmd × Rep => p.2.payload) hp)

/-- A request two buffers long, and a zero-length buffer between them. -/
def splitRun : List Op :=
  [.write 0x81 [1, 2, 3], .write 0x81 [], .arrive (.submit 1 usbipDirIn 1 2), .handle,
    .arrive (.submit 2 usbipDirIn 1 8), .handle]

theorem splitRun_isSome : ((device .minimal).exec splitRun).isSome = true := by decide

theorem stream_conservation_splitRun :
    ((sent 1 (((device .minimal).exec splitRun).get splitRun_isSome).1).map
        fun p => p.2.payload).flatten
      ++ (((((device .minimal).exec splitRun).get splitRun_isSome).1.inData 1).map
        Data.unsent).flatten
      = (written 1 (((device .minimal).exec splitRun).get splitRun_isSome).2).flatten :=
  (stream_conservation (run_exec_get splitRun_isSome) 1).1

/-- An IN command for an endpoint that does not exist, and then a `write()`. -/
def refusedRun : List Op :=
  [.arrive (.submit 1 usbipDirIn 32 8), .handle, .write 0x81 [1]]

theorem refusedRun_isSome : ((device .minimal).exec refusedRun).isSome = true := by decide

/-- Once there is an error `write()` does not take its buffer, so the bytes of all calls are not
conserved. -/
theorem not_stream_conservation_passed :
    ¬ ∀ (info : Info) (is : List Op) (d : Dev) (evs : List Event), (device info).Run is d evs →
      ∀ e, ((sent e d).map fun p => p.2.payload).flatten
        ++ ((d.inData e).map Data.unsent).flatten = (passed e evs).flatten := by
  intro hall
  have hrun := hall .minimal _ _ _ (run_exec_get refusedRun_isSome) 1
  revert hrun
  decide

end VirtualUSB

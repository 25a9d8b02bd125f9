import VirtualUSB.Device.Equiv.System

/-!
# The data queues

`QueueWf` is the invariant of the data of an endpoint: no item was sent beyond its end, only the
front item was sent in part, and an item of which everything was sent is gone unless it never held
a byte.

* `sendDataLoop_queueWf`: every turn of the matcher preserves it.
* `queue_invariant`: it holds in every run, together with the matching of requests and data.
-/

namespace VirtualUSB

open Handler LabelledSystem

variable {info : Info} {c : Cmd} {d d' : Dev} {e : EpIdx}

/-! ### The invariant -/

/-- The invariant of the data of an endpoint. -/
structure QueueWf (xs : List Data) : Prop where
  /-- `d.len - d.off` does not wrap. -/
  off_le : ∀ x ∈ xs, x.off ≤ x.len
  /-- Only the front item was sent in part. -/
  front : ∀ x ∈ xs.tail, x.off = 0
  /-- What was sent completely is gone. -/
  spent : ∀ x ∈ xs, x.off = x.len → x.len = 0

namespace QueueWf

variable {x : Data} {xs : List Data}

theorem nil : QueueWf [] where
  off_le := by simp
  front := by simp
  spent := by simp

/-- A new buffer comes at the end. -/
theorem push (h : QueueWf xs) (data : List UInt8) : QueueWf (xs ++ [{ data := data }]) where
  off_le := by
    intro x hx
    rcases List.mem_append.mp hx with hx | hx
    · exact h.off_le x hx
    · rw [List.mem_singleton.mp hx]
      exact Nat.zero_le _
  front := by
    intro x hx
    cases xs with
    | nil => cases hx
    | cons y ys =>
      rcases List.mem_append.mp hx with hx | hx
      · exact h.front x hx
      · rw [List.mem_singleton.mp hx]
  spent := by
    intro x hx hspent
    rcases List.mem_append.mp hx with hx | hx
    · exact h.spent x hx hspent
    · rw [List.mem_singleton.mp hx] at hspent ⊢
      exact hspent.symm

theorem tail (h : QueueWf (x :: xs)) : QueueWf xs where
  off_le y hy := h.off_le y (List.mem_cons_of_mem _ hy)
  front y hy := h.front y (List.mem_of_mem_tail hy)
  spent y hy := h.spent y (List.mem_cons_of_mem _ hy)

/-- More of the front item was sent, but not all of it. -/
theorem advance (h : QueueWf (x :: xs)) {n : ℕ} (hn : n ≤ x.len - x.off)
    (hrest : x.off + n ≠ x.len) : QueueWf ({ x with off := x.off + n } :: xs) where
  off_le := by
    intro y hy
    rcases List.mem_cons.mp hy with rfl | hy
    · have hle := h.off_le x (List.mem_cons_self ..)
      show x.off + n ≤ x.len
      omega
    · exact h.off_le y (List.mem_cons_of_mem _ hy)
  front := h.front
  spent := by
    intro y hy hspent
    rcases List.mem_cons.mp hy with rfl | hy
    · exact (hrest hspent).elim
    · exact h.spent y (List.mem_cons_of_mem _ hy) hspent

/-- Answering a request from the front item preserves the invariant. -/
theorem serve (h : QueueWf (x :: xs)) (c : Cmd) :
    QueueWf ((VirtualUSB.serve c x).2.toList ++ xs) := by
  unfold VirtualUSB.serve
  dsimp only
  split_ifs with hend
  · exact h.tail
  · exact h.advance (Nat.min_le_right _ _) hend

end QueueWf

/-! ### The operations -/

/-- **Every turn of the matcher preserves the invariant**, whatever the requests ask for. -/
theorem sendDataLoop_queueWf (n : ℕ) (hcs : InSubmits (d.inCmds e))
    (hdata : QueueWf (d.inData e)) : QueueWf (((sendDataLoop e n).run d).2.inData e) := by
  induction n generalizing d with
  | zero => exact hdata
  | succ n ih =>
    rw [sendDataLoop, run_bind_get]
    -- the loop ends when either deque is empty
    cases hcmds : d.inCmds e with
    | nil => exact hdata
    | cons c cs =>
      cases hxs : d.inData e with
      | nil => exact hdata
      | cons x xs =>
        rw [hcmds] at hcs
        rw [hxs] at hdata
        dsimp only
        rw [run_bind_ok (sendDataTurn_run (hcs c (List.mem_cons_self ..)) d)]
        apply ih
        · show InSubmits (setDeque d.inCmds e cs e)
          rw [setDeque_self]
          exact fun c' hc' => hcs c' (List.mem_cons_of_mem _ hc')
        · show QueueWf (setDeque d.inData e _ e)
          rw [setDeque_self]
          exact hdata.serve c

/-- The matcher preserves the invariant of every endpoint. -/
theorem QueueWf.drained (hcs : InSubmits (d.inCmds e)) (hdata : ∀ e', QueueWf (d.inData e'))
    (e' : EpIdx) : QueueWf ((d.drained e).inData e') := by
  by_cases he : e' = e
  · subst he
    have hloop := sendDataLoop_queueWf (d.inCmds e').length hcs (hdata e')
    rwa [sendDataLoop_run d rfl hcs] at hloop
  · rw [Dev.drained_inData_of_ne he]
    exact hdata e'

/-- Every critical section preserves the invariant. -/
theorem DevStep.queueWf {op : Op} {ev : Event} (hwf : d.Wf) (h : DevStep info d op d' ev)
    (hdata : ∀ e, QueueWf (d.inData e)) : ∀ e, QueueWf (d'.inData e) := by
  cases h with
  | @handle c cs _ _ _ _ hh =>
    cases hh with
    -- only an IN transfer runs the matcher; an UNLINK leaves the data alone
    | @inTransfer e hin =>
      refine QueueWf.drained (d := Dev.pushCmd { d with cmds := cs } e c) ?_ hdata
      exact Dev.forall_mem_pushCmd (hwf.inSubmits e) (isInTransfer.submit hin)
    | _ => exact hdata
  | @write ep data =>
    refine QueueWf.drained (d := d.pushData (writeIdx ep) data) (hwf.inSubmits _) ?_
    intro e
    by_cases he : e = writeIdx ep
    · subst he
      rw [Dev.pushData_inData_self]
      exact (hdata _).push data
    · rw [Dev.pushData_inData_of_ne he]
      exact hdata e
  | fail err =>
    rw [Dev.fail_inData]
    exact hdata
  | _ => exact hdata

/-- The invariant holds in every run. -/
theorem queueWf_of_run {ok : Dev → Op → Prop} {is : List Op} {evs : List Event}
    (h : (device info).RunWhere ok {} is d evs) : ∀ e, QueueWf (d.inData e) :=
  (run_induction (P := fun d _ => ∀ e, QueueWf (d.inData e)) .init (fun _ => .nil)
    (fun _ _ _ _ _ hwf hdata _ hs => hs.queueWf hwf hdata) h).2

/-- **The queue invariant.**  In every reachable state an endpoint has no requests or no data; no
item was sent beyond its end, only the front one was sent in part, and one that was sent completely
is still there only if it is empty.  A critical section restores all of this, and within one the
matcher never subtracts an offset from a smaller length: not after any number of its turns, be they
for a new buffer or for a new request. -/
theorem queue_invariant {is : List Op} {evs : List Event} (h : (device info).Run is d evs) :
    (∀ e, (d.inCmds e = [] ∨ d.inData e = []) ∧ QueueWf (d.inData e)) ∧
      (∀ op d' evs', d.step info op = some (d', evs') →
        ∀ e, (d'.inCmds e = [] ∨ d'.inData e = []) ∧ QueueWf (d'.inData e)) ∧
      (∀ e data n, ∀ x ∈ ((sendDataLoop e n).run (d.pushData e data)).2.inData e,
        x.off ≤ x.len) ∧
      ∀ e c n, isInTransfer e c = true →
        ∀ x ∈ ((sendDataLoop e n).run (d.pushCmd e c)).2.inData e, x.off ≤ x.len := by
  have hwf := wf_of_run .init h
  have hdata := queueWf_of_run h
  refine ⟨fun e => ⟨hwf.matched e, hdata e⟩, fun op d' evs' hs => ?_, fun e data n => ?_,
    fun e c n hin => ?_⟩
  · obtain ⟨ev, rfl, hstep⟩ := step_spec hwf hs
    exact fun e => ⟨(hstep.wf hwf).matched e, hstep.queueWf hwf hdata e⟩
  · refine (sendDataLoop_queueWf (d := d.pushData e data) n (hwf.inSubmits e) ?_).off_le
    rw [Dev.pushData_inData_self]
    exact (hdata e).push data
  · refine (sendDataLoop_queueWf (d := d.pushCmd e c) n ?_ (hdata e)).off_le
    exact Dev.forall_mem_pushCmd (hwf.inSubmits e) (isInTransfer.submit hin)

/-- An empty buffer and a buffer of one byte are written to an endpoint; nothing is sent. -/
theorem queue_invariant_emptyWrite :
    ∃ d evs, (device Info.minimal).Run [.write 0x82 [], .write 0x82 [7]] d evs ∧
      d.inData 2 = [{ data := [] }, { data := [7] }] ∧ QueueWf (d.inData 2) := by
  have hrun : (device Info.minimal).Run [.write 0x82 [], .write 0x82 [7]] _ _ :=
    run_exec_get (by decide)
  exact ⟨_, _, hrun, rfl, ((queue_invariant hrun).1 2).2⟩

end VirtualUSB

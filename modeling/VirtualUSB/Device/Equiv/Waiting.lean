import VirtualUSB.Device.Equiv.System
import Mathlib.Data.List.Count

/-!
# The commands that wait

`waiting d` is the commands in all deques.  Replacing one deque replaces its part of them, and an
UNLINK erases the first command with the number it names, whichever deque holds it.
-/

namespace VirtualUSB

variable {info : Info} {c : Cmd} {d d' : Dev} {e : EpIdx}

/-! ### Replacing a deque -/

/-- Replacing a deque replaces its commands among those that wait. -/
theorem count_flatMap_setDeque (f : EpIdx → List Cmd) (e : EpIdx) (l : List Cmd) (a : Cmd) :
    ((List.finRange Endpoint.maxCount).flatMap (setDeque f e l)).count a + (f e).count a
      = ((List.finRange Endpoint.maxCount).flatMap f).count a + l.count a := by
  obtain ⟨es₁, es₂, hsplit⟩ := List.append_of_mem (List.mem_finRange e)
  have hnd := List.nodup_finRange Endpoint.maxCount
  rw [hsplit] at hnd ⊢
  have hne : ∀ e' ∈ es₁ ++ es₂, setDeque f e l e' = f e' := by
    intro e' he'
    refine setDeque_of_ne f l ?_
    rintro rfl
    exact List.Nodup.notMem (List.nodup_middle.mp hnd) he'
  have h₁ : es₁.flatMap (setDeque f e l) = es₁.flatMap f :=
    List.flatMap_congr fun e' he' => hne e' (List.mem_append_left _ he')
  have h₂ : es₂.flatMap (setDeque f e l) = es₂.flatMap f :=
    List.flatMap_congr fun e' he' => hne e' (List.mem_append_right _ he')
  simp only [List.flatMap_append, List.flatMap_cons, List.count_append, h₁, h₂, setDeque_self]
  omega

/-- A command that belongs to an endpoint waits in the deque of that endpoint. -/
theorem count_waiting_of_isInTransfer (hwf : d.Wf) (h : isInTransfer e c = true) :
    (waiting d).count c = (d.inCmds e).count c := by
  have hcount := count_flatMap_setDeque d.inCmds e [] c
  have hnone : ((List.finRange Endpoint.maxCount).flatMap (setDeque d.inCmds e [])).count c
      = 0 := by
    refine List.count_eq_zero.mpr fun hmem => ?_
    obtain ⟨e', -, he'⟩ := List.mem_flatMap.mp hmem
    by_cases hee : e' = e
    · subst hee
      simp at he'
    · rw [setDeque_of_ne _ _ hee] at he'
      exact hee (isInTransfer.unique (hwf.inTransfer e' c he') h)
  rw [hnone, List.count_nil] at hcount
  simp only [waiting]
  omega

/-! ### Unlinking -/

/-- Erasing from the first deque that holds the number erases from all commands that wait. -/
theorem eraseP_flatMap {f : EpIdx → List Cmd} {p : Cmd → Bool} {es : List EpIdx}
    (hnd : es.Nodup) (h : es.find? (fun e => (f e).any p) = some e) :
    (es.flatMap f).eraseP p = es.flatMap (setDeque f e ((f e).eraseP p)) := by
  induction es with
  | nil => simp at h
  | cons e' es ih =>
    obtain ⟨hnot, hnd'⟩ := List.nodup_cons.mp hnd
    rw [List.flatMap_cons, List.flatMap_cons]
    by_cases hany : (f e').any p = true
    · -- found in the first deque
      obtain rfl : e' = e := by simpa [List.find?_cons, hany] using h
      obtain ⟨c, hc, hp⟩ := List.any_eq_true.mp hany
      have hrest : es.flatMap (setDeque f e' ((f e').eraseP p)) = es.flatMap f := by
        refine List.flatMap_congr fun e'' he'' => setDeque_of_ne _ _ ?_
        rintro rfl
        exact hnot he''
      rw [List.eraseP_append_left hp _ hc, setDeque_self, hrest]
    · replace h : es.find? (fun e => (f e).any p) = some e := by
        simpa [List.find?_cons, hany] using h
      have hmem := List.mem_of_find?_eq_some h
      have hne : e' ≠ e := by
        rintro rfl
        exact hnot hmem
      have hnone : ∀ c ∈ f e', ¬ p c := by
        intro c hc hp
        exact hany (List.any_eq_true.mpr ⟨c, hc, hp⟩)
      rw [List.eraseP_append_right _ hnone, ih hnd' h, setDeque_of_ne _ _ hne]

theorem waiting_init : waiting {} = [] :=
  List.flatMap_eq_nil_iff.mpr fun _ _ => rfl

theorem mem_waiting : c ∈ waiting d ↔ ∃ e, c ∈ d.inCmds e := by
  simp [waiting]

/-- The search loops of UNLINK find a command exactly when one waits under the number, and erase
that one. -/
theorem eraseInCmd_spec (d : Dev) (n : UInt32) :
    (eraseInCmd d.inCmds n).1 = (waitingFor d n).isSome ∧
      (List.finRange Endpoint.maxCount).flatMap (eraseInCmd d.inCmds n).2
        = (waiting d).eraseP fun c => c.seqnum == n := by
  unfold eraseInCmd
  cases hfind : findInCmds d.inCmds n with
  | some e =>
    refine ⟨?_, (eraseP_flatMap (List.nodup_finRange _) hfind).symm⟩
    have hany := List.find?_some hfind
    obtain ⟨c, hc, hn⟩ := List.any_eq_true.mp hany
    exact (List.find?_isSome.mpr ⟨c, mem_waiting.mpr ⟨e, hc⟩, hn⟩).symm
  | none =>
    -- no deque holds a command with the number
    have hnone : ∀ c ∈ waiting d, ¬ (c.seqnum == n) = true := by
      intro c hc hn
      obtain ⟨e, he⟩ := mem_waiting.mp hc
      have hany := List.find?_eq_none.mp hfind e (List.mem_finRange e)
      exact hany (List.any_eq_true.mpr ⟨c, he, hn⟩)
    refine ⟨?_, (List.eraseP_of_forall_not hnone).symm⟩
    rw [waitingFor, List.find?_eq_none.mpr hnone]
    rfl

/-- What waits before an UNLINK is what waits after it and its target. -/
theorem count_waiting_eraseInCmd (d : Dev) (n : UInt32) (a : Cmd) :
    ((List.finRange Endpoint.maxCount).flatMap (eraseInCmd d.inCmds n).2).count a
        + (waitingFor d n).toList.count a
      = (waiting d).count a := by
  rw [(eraseInCmd_spec d n).2]
  cases ht : waitingFor d n with
  | none =>
    rw [List.eraseP_of_forall_not (List.find?_eq_none.mp ht)]
    simp
  | some t =>
    -- the target is the first command with the number, over all deques in order
    obtain ⟨hn, as, bs, hsplit, has⟩ := List.find?_eq_some_iff_append.mp ht
    have has' : ∀ a ∈ as, ¬ (a.seqnum == n) = true := by
      intro a ha
      simpa using has a ha
    have herase : (t :: bs).eraseP (fun c => c.seqnum == n) = bs := List.eraseP_cons_of_pos hn
    rw [hsplit, List.eraseP_append_right _ has', herase]
    simp only [List.count_append, List.count_cons, Option.toList_some, List.count_nil]
    omega

end VirtualUSB

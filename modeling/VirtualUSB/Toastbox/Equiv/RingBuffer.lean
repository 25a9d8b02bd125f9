import VirtualUSB.Toastbox.RingBuffer

/-!
# The ring buffer is a bounded queue

* `RingBuffer.Holds` ties the two offsets and the flag to the number of elements.
* `read_spec`, `writeSegments_spec`, `write_spec`, `writeOver_spec`: what the operations do to the
  window of the memory that holds the elements.
* `ringBuffer_refines_queue`: however it is used, a ring buffer does what the queue does, aborts
  when the queue refuses, and leaves the memory outside of its array alone.
-/

namespace VirtualUSB

open Cyclic LabelledSystem

variable {T : Type*} {cap n : ℕ}

namespace RingBuffer

variable {r : RingBuffer T} {data : List T}

/-! ### The invariant -/

/-- The buffer holds `n` elements. -/
structure Holds (cap : ℕ) (r : RingBuffer T) (n : ℕ) : Prop where
  roff : r.roff < cap
  le : n ≤ cap
  woff : r.woff = (r.roff + n) % cap
  full : r.full = decide (n = cap)

/-- The elements in the buffer, those first that have been there longest. -/
def contents (cap : ℕ) (r : RingBuffer T) : List T :=
  window cap r.buf r.roff (r.len cap)

theorem Holds.init (hcap : 0 < cap) (mem : ℕ → T) : Holds cap { buf := mem } 0 where
  roff := hcap
  le := Nat.zero_le _
  woff := (Nat.zero_mod cap).symm
  full := by simp [hcap.ne]

theorem Holds.len (h : r.Holds cap n) : r.len cap = n := by
  have hwoff := h.woff
  have hroff := h.roff
  have hle := h.le
  rw [mod_eq_ite (by omega)] at hwoff
  rcases Nat.lt_trichotomy r.woff r.roff with hlt | heq | hgt
  · rw [RingBuffer.len, if_neg (by omega), if_pos hlt]
    split_ifs at hwoff <;> omega
  · -- an empty buffer and a full one
    rw [RingBuffer.len, if_neg (by omega), if_neg (by omega), h.full]
    by_cases hn : n = cap
    · rw [if_pos (decide_eq_true hn), hn]
    · rw [if_neg (by simpa using hn)]
      split_ifs at hwoff <;> omega
  · rw [RingBuffer.len, if_pos hgt]
    split_ifs at hwoff <;> omega

theorem Holds.space (h : r.Holds cap n) : r.space cap = cap - n := by
  rw [RingBuffer.space, h.len]

theorem advance_eq {off k : ℕ} (hcap : 0 < cap) (h : off + k ≤ cap) :
    advance cap off k = (off + k) % cap := by
  rw [advance, mod_eq_ite (by omega)]
  split_ifs <;> omega

/-! ### Reading -/

/-- The offset after both segments of `read` or `write`. -/
theorem advance_advance {off k : ℕ} (hoff : off < cap) (hk : k ≤ cap) :
    (if k - min k (cap - off) ≠ 0 then
      advance cap (advance cap off (min k (cap - off))) (k - min k (cap - off))
        else advance cap off (min k (cap - off))) = (off + k) % cap := by
  have hcap : 0 < cap := by omega
  split_ifs with hrem
  · -- the first segment has reached the end
    have hfirst : advance cap off (min k (cap - off)) = 0 := by
      rw [advance_eq hcap (by omega), min_eq_right (by omega), Nat.add_sub_cancel' hoff.le,
        Nat.mod_self]
    have hindex : off + k = (k - min k (cap - off)) + cap := by omega
    rw [hfirst, advance_eq hcap (by omega), Nat.zero_add, hindex, Nat.add_mod_right]
  · rw [min_eq_left (by omega)]
    exact advance_eq hcap (by omega)

/-- **Reading** takes the elements that have been there longest. -/
theorem read_spec {k : ℕ} (h : r.Holds cap n) (hk : k ≤ n) :
    ∃ r', r.read cap k = some ((r.contents cap).take k, r') ∧ r'.Holds cap (n - k) ∧
      r'.contents cap = (r.contents cap).drop k ∧ r'.buf = r.buf := by
  have hroff := h.roff
  have hle := h.le
  have hwoff := h.woff
  have hcap : 0 < cap := by omega
  rw [mod_eq_ite (by omega)] at hwoff
  -- the second segment is as long as what is left to read
  have hlen2 : min (k - min k (cap - r.roff)) r.woff = k - min k (cap - r.roff) := by
    split_ifs at hwoff <;> omega
  have hseg2 : (if k - min k (cap - r.roff) ≠ 0 then segment r.buf 0 (k - min k (cap - r.roff))
      else []) = segment r.buf 0 (k - min k (cap - r.roff)) := by
    split_ifs with hrem
    · rfl
    · rw [not_not.mp hrem]
      rfl
  have htake : (r.contents cap).take k = segment r.buf r.roff (min k (cap - r.roff))
      ++ segment r.buf 0 (k - min k (cap - r.roff)) := by
    rw [contents, h.len, take_window hk, window_eq_segments hroff (by omega)]
  have hholds : ({ r with
      roff := (r.roff + k) % cap
      full := if k ≠ 0 then false else r.full } : RingBuffer T).Holds cap (n - k) := by
    refine ⟨Nat.mod_lt _ hcap, by omega, ?_, ?_⟩
    · show r.woff = _
      rw [h.woff, Nat.mod_add_mod]
      congr 1
      omega
    · show (if k ≠ 0 then false else r.full) = _
      split_ifs with hzero
      · exact (decide_eq_false (by omega)).symm
      · rw [not_not.mp hzero, h.full, Nat.sub_zero]
  refine ⟨_, ?_, hholds, ?_, rfl⟩
  · rw [RingBuffer.read, if_neg (by rw [h.len]; omega)]
    dsimp only
    rw [hlen2, hseg2, advance_advance hroff (by omega), htake]
  · rw [contents, hholds.len, contents, h.len, drop_window hk]
    exact window_mod _ _

/-! ### Writing -/

/-- The two segments of `write` store the elements behind those that are there.  The flag may be out
of date if elements were given up before. -/
theorem writeSegments_spec (data : List T) (hroff : r.roff < cap)
    (hwoff : r.woff = (r.roff + n) % cap) (hroom : n + data.length ≤ cap)
    (hfull : data ≠ [] → r.full = true → n + data.length = cap)
    (hempty : data = [] → r.full = decide (n = cap)) :
    (r.writeSegments cap data).Holds cap (n + data.length) ∧
      (r.writeSegments cap data).roff = r.roff ∧
      (r.writeSegments cap data).buf = copyCyclic cap r.buf r.woff data := by
  have hcap : 0 < cap := by omega
  have hlt : r.woff < cap := hwoff ▸ Nat.mod_lt _ hcap
  -- the second segment is as long as what is left to write
  have hlen2 : min (data.length - min data.length (cap - r.woff)) r.roff
      = data.length - min data.length (cap - r.woff) := by
    have hsplit := hwoff
    rw [mod_eq_ite (by omega)] at hsplit
    split_ifs at hsplit <;> omega
  have hoffset : (r.writeSegments cap data).woff = (r.roff + (n + data.length)) % cap := by
    rw [writeSegments]
    dsimp only
    rw [hlen2, advance_advance hlt (by omega), hwoff, Nat.mod_add_mod, Nat.add_assoc]
  refine ⟨⟨hroff, hroom, hoffset, ?_⟩, rfl, ?_⟩
  · -- both offsets are the same when `cap` elements or none are there
    have hflag : (r.writeSegments cap data).full
        = if data.length ≠ 0 ∧ (r.writeSegments cap data).woff = r.roff then true else r.full := rfl
    rw [hflag, hoffset]
    by_cases hnil : data = []
    · rw [if_neg (by simp [hnil]), hempty hnil, hnil, List.length_nil, Nat.add_zero]
    · have hpos : 0 < data.length := List.length_pos_iff.mpr hnil
      rw [mod_eq_ite (by omega)]
      by_cases hcount : n + data.length = cap
      · rw [if_pos ⟨by omega, by split_ifs <;> omega⟩, decide_eq_true hcount]
      · rw [if_neg (by split_ifs <;> omega), decide_eq_false hcount]
        exact Bool.eq_false_iff.mpr fun hset => hcount (hfull hnil hset)
  · rw [writeSegments]
    dsimp only
    rw [hlen2, copyCyclic]
    rcases Nat.le_total data.length (cap - r.woff) with hle | hle
    · -- one segment
      rw [min_eq_left hle, List.take_length, List.take_of_length_le hle,
        List.drop_eq_nil_of_le hle, if_neg (by omega)]
      exact (copyTo_nil _ _).symm
    · rw [min_eq_right hle, ← List.length_drop, List.take_length]
      split_ifs with hrem
      · rfl
      · rw [List.eq_nil_of_length_eq_zero (not_not.mp hrem)]
        exact (copyTo_nil _ _).symm

/-- **Writing** appends the elements. -/
theorem write_spec (h : r.Holds cap n) (hroom : n + data.length ≤ cap) :
    ∃ r', r.write cap data = some r' ∧ r'.Holds cap (n + data.length) ∧
      r'.contents cap = r.contents cap ++ data ∧ r'.buf = copyCyclic cap r.buf r.woff data := by
  have hcap : 0 < cap := Nat.zero_lt_of_lt h.roff
  obtain ⟨hholds, hroff, hbuf⟩ := writeSegments_spec data h.roff h.woff hroom
    (fun _ hset => by
      rw [h.full] at hset
      have := of_decide_eq_true hset
      omega)
    fun _ => h.full
  refine ⟨_, if_neg (by rw [h.space]; omega), hholds, ?_, hbuf⟩
  rw [contents, hholds.len, contents, h.len, hroff, hbuf, h.woff, window_copyCyclic hcap hroom]

/-! ### Writing over -/

/-- Elements are given up from the front. -/
theorem Holds.overwritten {k : ℕ} (h : r.Holds cap n) (hk : k ≤ n) :
    r.overwritten cap k = (r.roff + k) % cap := by
  have hroff := h.roff
  have hle := h.le
  rw [RingBuffer.overwritten, mod_eq_ite (by omega)]
  split_ifs <;> omega

/-- **Writing over** appends the elements, and those that have been there longest are given up. -/
theorem writeOver_spec (data : List T) (h : r.Holds cap n) :
    (r.writeOver cap data).Holds cap (min cap (n + data.length)) ∧
      (r.writeOver cap data).contents cap
        = (r.contents cap ++ data).drop (n + data.length - cap) ∧
      ∀ i, cap ≤ i → (r.writeOver cap data).buf i = r.buf i := by
  have hcap : 0 < cap := Nat.zero_lt_of_lt h.roff
  have hlt : r.woff < cap := h.woff ▸ Nat.mod_lt _ hcap
  have hle := h.le
  -- the elements that are written
  obtain ⟨kept, hkept⟩ : ∃ kept, kept = data.drop (data.length - cap) := ⟨_, rfl⟩
  have htrailing : (if data.length > cap then data.drop (data.length - cap) else data) = kept := by
    split_ifs with hlong
    · exact hkept.symm
    · rw [hkept, show data.length - cap = 0 by omega, List.drop_zero]
  have hlen : kept.length = min cap data.length := by
    rw [hkept, List.length_drop]
    omega
  -- the elements that are given up
  obtain ⟨k, hk⟩ : ∃ k, k = kept.length - (cap - n) := ⟨_, rfl⟩
  have hroff : (if kept.length > r.space cap then r.overwritten cap (kept.length - r.space cap)
      else r.roff) = (r.roff + k) % cap := by
    rw [h.space]
    split_ifs with hover
    · rw [h.overwritten (by omega), hk]
    · rw [show k = 0 by omega, Nat.add_zero, Nat.mod_eq_of_lt h.roff]
  have heq : r.writeOver cap data
      = ({ r with roff := (r.roff + k) % cap } : RingBuffer T).writeSegments cap kept := by
    rw [writeOver, htrailing, hroff]
  have hwoff : r.woff = ((r.roff + k) % cap + (n - k)) % cap := by
    rw [h.woff, Nat.mod_add_mod, Nat.add_assoc, Nat.add_sub_cancel' (by omega)]
  obtain ⟨hholds, hroff', hbuf⟩ := writeSegments_spec (n := n - k)
    (r := { r with roff := (r.roff + k) % cap }) kept (Nat.mod_lt _ hcap) hwoff (by omega)
    (fun _ hset => by
      have := of_decide_eq_true (h.full.symm.trans hset)
      omega)
    (fun hnil => by
      rw [show n - k = n by rw [hk, hnil]; simp]
      exact h.full)
  rw [← heq] at hholds hroff' hbuf
  refine ⟨?_, ?_, fun i hi => ?_⟩
  · rwa [show min cap (n + data.length) = n - k + kept.length by omega]
  · have hwindow : (r.writeOver cap data).contents cap
        = window cap r.buf (r.roff + k) (n - k) ++ kept := by
      rw [contents, hholds.len, hroff', hbuf]
      show window cap (copyCyclic cap r.buf r.woff kept) _ _ = _
      rw [hwoff, window_copyCyclic hcap (by omega), window_mod]
    rw [hwindow, contents, h.len, List.drop_append, length_window,
      show n + data.length - cap - n = data.length - cap by omega, ← hkept]
    congr 1
    rcases Nat.le_total data.length cap with hshort | hlong
    · rw [drop_window (by omega), show n + data.length - cap = k by omega]
    · -- nothing of what was there is left
      rw [show n - k = 0 by omega, window_zero, List.drop_eq_nil_of_le (by simp; omega)]
  · rw [hbuf]
    exact copyCyclic_outside hlt (by omega) hi

/-! ### Any use of a ring buffer -/

/-- What is kept while a ring buffer is used. -/
structure Valid (cap : ℕ) (mem : ℕ → T) (r : RingBuffer T) : Prop where
  holds : ∃ n, r.Holds cap n
  outside : ∀ i, cap ≤ i → r.buf i = mem i

theorem Valid.init {mem : ℕ → T} (hcap : 0 < cap) : Valid cap mem { buf := mem } :=
  ⟨⟨0, Holds.init hcap mem⟩, fun _ _ => rfl⟩

theorem Holds.length_contents (h : r.Holds cap n) : (r.contents cap).length = n := by
  rw [contents, length_window, h.len]

/-- **One call** has the effect that it has on the queue, and is refused if the queue refuses it. -/
theorem step_refines {mem : ℕ → T} (h : r.Valid cap mem) (op : RingOp T) :
    (r.step cap op).map (fun p => (p.1.contents cap, p.2)) = queueStep cap (r.contents cap) op ∧
      ∀ p, r.step cap op = some p → p.1.Valid cap mem := by
  obtain ⟨⟨n, hholds⟩, hmem⟩ := h
  have hlength := hholds.length_contents
  cases op with
  | read k =>
    rcases Nat.lt_or_ge n k with hlt | hle
    · have hnone : r.read cap k = none := if_pos (by rw [hholds.len]; exact hlt)
      simp [step, hnone, queueStep, hlength, hlt]
    · obtain ⟨r', hread, hholds', hcontents, hbuf⟩ := read_spec hholds hle
      refine ⟨by simp [step, hread, hcontents, queueStep, hlength, hle], fun p hp => ?_⟩
      simp only [step, hread, Option.map_some, Option.some.injEq] at hp
      subst hp
      exact ⟨⟨_, hholds'⟩, fun i hi => by rw [hbuf, hmem i hi]⟩
  | write data =>
    have hwoff : r.woff < cap :=
      hholds.woff ▸ Nat.mod_lt _ (Nat.zero_lt_of_lt hholds.roff)
    have hle := hholds.le
    rcases Nat.lt_or_ge cap (n + data.length) with hlt | hroom
    · have hnone : r.write cap data = none := if_pos (by rw [hholds.space]; omega)
      simp [step, hnone, queueStep, hlength, hlt]
    · obtain ⟨r', hwrite, hholds', hcontents, hbuf⟩ := write_spec hholds hroom
      refine ⟨by simp [step, hwrite, hcontents, queueStep, hlength, hroom], fun p hp => ?_⟩
      simp only [step, hwrite, Option.map_some, Option.some.injEq] at hp
      subst hp
      exact ⟨⟨_, hholds'⟩, fun i hi => by
        rw [hbuf, copyCyclic_outside hwoff (by omega) hi, hmem i hi]⟩
  | writeOver data =>
    obtain ⟨hholds', hcontents, hbuf⟩ := writeOver_spec data hholds
    refine ⟨by simp [step, hcontents, queueStep, hlength], fun p hp => ?_⟩
    simp only [step, Option.some.injEq] at hp
    subst hp
    exact ⟨⟨_, hholds'⟩, fun i hi => by rw [hbuf i hi, hmem i hi]⟩

end RingBuffer

/-- **A ring buffer is a queue of at most `cap` elements**: whatever calls are made, what is read
and what the buffer holds afterwards are what they are of the queue, `abort()` is called when the
queue refuses a call and never else, and the memory outside of the array is left alone. -/
theorem ringBuffer_refines_queue (hcap : 0 < cap) (mem : ℕ → T) (ops : List (RingOp T)) :
    ((ringBuffer cap mem).exec ops).map (fun p => (p.1.contents cap, p.2))
        = (boundedQueue T cap).exec ops ∧
      ∀ r read, (ringBuffer cap mem).exec ops = some (r, read) →
        ∀ i, cap ≤ i → r.buf i = mem i := by
  have hstep : ∀ r op r' read, r.Valid cap mem → (ringBuffer cap mem).step r op = some (r', read) →
      r'.Valid cap mem := fun r op r' read h hs => (RingBuffer.step_refines h op).2 _ hs
  refine ⟨?_, fun r read hrun => ?_⟩
  · exact execFrom_map (M := ringBuffer cap mem) (N := boundedQueue T cap)
      (I := RingBuffer.Valid cap mem) (fun r op h => (RingBuffer.step_refines h op).1) hstep
      (RingBuffer.Valid.init hcap) ops
  · have hvalid : r.Valid cap mem := RunWhere.state_invariant (RingBuffer.Valid.init hcap)
      (fun r op r' read h _ hs => hstep r op r' read h hs) (run_of_exec hrun)
    exact hvalid.outside

/-- With room for three elements, writing over gives up one that was not read, and wraps around. -/
theorem ringBuffer_refines_queue_three :
    (((ringBuffer 3 fun _ => (0 : ℕ)).exec
        [.write [1, 2], .read 1, .writeOver [3, 4, 5], .read 2]).map
          fun p => (p.1.contents 3, p.2)) = some ([5], [[1], [3, 4]]) :=
  (ringBuffer_refines_queue (by decide) _ _).1.trans rfl

end VirtualUSB

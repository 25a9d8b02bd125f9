import Mathlib.Data.List.Basic
import Mathlib.Data.List.Infix
import Mathlib.Data.List.Flatten
import Mathlib.Tactic.Common

/-!
# Greedy matching of two queues

Requests of type `C` and data items of type `D` wait in two queues.  `serve c d` answers the
request `c` from the item `d`: it gives the answer and what is left of the item, if anything is
left.  `drain` serves the front request from the front item until one queue is empty.

* `drain_append`: draining everything at once is draining a part, adding the rest to what is left
  and draining again.  So the answers and the final queues depend only on the two sequences, not
  on how their arrivals were interleaved (`Drained.request`, `Drained.item`).
* `Cut`: the pieces taken so far from a sequence of buffers and what is left of them.  It says
  that no byte is lost, repeated or reordered (`Cut.conserve`) and that a piece lies inside one
  buffer (`Cut.inside`, `Cut.isInfix_of_mem`).
-/

namespace GreedyMatch

variable {C D R : Type*} (serve : C → D → R × Option D)

/-! ### Draining -/

/-- Serve the front request from the front item until one of the queues is empty: the answers and
what is left of the two queues. -/
def drain : List C → List D → List R × List C × List D
  | [], ds => ([], [], ds)
  | c :: cs, [] => ([], c :: cs, [])
  | c :: cs, d :: ds =>
    ((serve c d).1 :: (drain cs ((serve c d).2.toList ++ ds)).1,
      (drain cs ((serve c d).2.toList ++ ds)).2)

@[simp] theorem drain_nil_left (ds : List D) : drain serve [] ds = ([], [], ds) := by
  rw [drain]

@[simp] theorem drain_nil_right (cs : List C) : drain serve cs [] = ([], cs, []) := by
  cases cs <;> rw [drain]

theorem drain_cons (c : C) (cs : List C) (d : D) (ds : List D) :
    drain serve (c :: cs) (d :: ds) =
      ((serve c d).1 :: (drain serve cs ((serve c d).2.toList ++ ds)).1,
        (drain serve cs ((serve c d).2.toList ++ ds)).2) := by
  rw [drain]

/-- After draining no request waits while an item is available. -/
theorem drain_left_or_right (cs : List C) (ds : List D) :
    (drain serve cs ds).2.1 = [] ∨ (drain serve cs ds).2.2 = [] := by
  induction cs generalizing ds with
  | nil => simp
  | cons c cs ih =>
    cases ds with
    | nil => simp
    | cons d ds => rw [drain_cons]; exact ih _

/-- The requests that are left are those that come after the answered ones. -/
theorem drain_requests (cs : List C) (ds : List D) :
    (drain serve cs ds).2.1 = cs.drop (drain serve cs ds).1.length := by
  induction cs generalizing ds with
  | nil => simp
  | cons c cs ih =>
    cases ds with
    | nil => simp
    | cons d ds => rw [drain_cons]; simpa using ih _

/-- **Confluence**: draining longer queues is draining a prefix of each, adding the rest to what
is left, and draining again. -/
theorem drain_append (cs cs' : List C) (ds ds' : List D) :
    drain serve (cs ++ cs') (ds ++ ds') =
      ((drain serve cs ds).1 ++
          (drain serve ((drain serve cs ds).2.1 ++ cs') ((drain serve cs ds).2.2 ++ ds')).1,
        (drain serve ((drain serve cs ds).2.1 ++ cs') ((drain serve cs ds).2.2 ++ ds')).2) := by
  induction cs generalizing ds with
  | nil => simp
  | cons c cs ih =>
    cases ds with
    | nil => simp
    | cons d ds =>
      rw [List.cons_append, List.cons_append, drain_cons, drain_cons, ← List.append_assoc, ih]
      simp

/-- The answers `rs` and the queues `cs`, `ds` are what is got from all requests `Q` and all items
`B` that ever arrived. -/
def Drained (Q : List C) (B : List D) (rs : List R) (cs : List C) (ds : List D) : Prop :=
  drain serve Q B = (rs, cs, ds)

variable {serve}

namespace Drained

variable {Q : List C} {B : List D} {rs : List R} {cs : List C} {ds : List D}

theorem nil : Drained serve [] [] [] [] [] :=
  drain_nil_left serve []

/-- What is left is blocked: one of the queues is empty. -/
theorem blocked (h : Drained serve Q B rs cs ds) : cs = [] ∨ ds = [] := by
  have hb := drain_left_or_right serve Q B
  rw [h] at hb
  exact hb

/-- A request arrives and the queues are drained again. -/
theorem request (h : Drained serve Q B rs cs ds) (c : C) :
    Drained serve (Q ++ [c]) B (rs ++ (drain serve (cs ++ [c]) ds).1)
      (drain serve (cs ++ [c]) ds).2.1 (drain serve (cs ++ [c]) ds).2.2 := by
  have ha := drain_append serve Q [c] B []
  rw [List.append_nil, h] at ha
  simpa [Drained] using ha

/-- An item arrives and the queues are drained again. -/
theorem item (h : Drained serve Q B rs cs ds) (d : D) :
    Drained serve Q (B ++ [d]) (rs ++ (drain serve cs (ds ++ [d])).1)
      (drain serve cs (ds ++ [d])).2.1 (drain serve cs (ds ++ [d])).2.2 := by
  have ha := drain_append serve Q [] B [d]
  rw [List.append_nil, h] at ha
  simpa [Drained] using ha

/-- **Order independence**: the answers and what is left are a function of the requests and the
items. -/
theorem unique {rs' : List R} {cs' : List C} {ds' : List D} (h : Drained serve Q B rs cs ds)
    (h' : Drained serve Q B rs' cs' ds') : rs = rs' ∧ cs = cs' ∧ ds = ds' := by
  have he : (rs, cs, ds) = (rs', cs', ds') := h.symm.trans h'
  simpa using he

end Drained

/-! ### Answers carry the name of their request -/

section Tags

variable {T : Type*} {tagC : C → T} {tagR : R → T}

/-- The names of the answers, followed by those of the waiting requests, are the names of the
requests in order. -/
theorem drain_tags (htag : ∀ c d, tagR (serve c d).1 = tagC c) (cs : List C) (ds : List D) :
    (drain serve cs ds).1.map tagR ++ (drain serve cs ds).2.1.map tagC = cs.map tagC := by
  induction cs generalizing ds with
  | nil => simp
  | cons c cs ih =>
    cases ds with
    | nil => simp
    | cons d ds =>
      rw [drain_cons, List.map_cons, List.map_cons, List.cons_append, ih, htag]

end Tags

/-- What holds of every single answer holds of all answers. -/
theorem forall_mem_drain {P : C → Prop} {Q : R → Prop} (hserve : ∀ c d, P c → Q (serve c d).1)
    {cs : List C} (hcs : ∀ c ∈ cs, P c) (ds : List D) : ∀ r ∈ (drain serve cs ds).1, Q r := by
  induction cs generalizing ds with
  | nil => simp
  | cons c cs ih =>
    cases ds with
    | nil => simp
    | cons d ds =>
      rw [drain_cons]
      intro r hr
      rcases List.mem_cons.mp hr with rfl | hr
      · exact hserve c d (hcs c (List.mem_cons_self ..))
      · exact ih (fun c' hc' => hcs c' (List.mem_cons_of_mem _ hc')) _ r hr

/-- If serving looks at a request only through `f`, so does draining. -/
theorem drain_map {C' R' : Type*} {serve' : C' → D → R' × Option D} {f : C → C'} {g : R → R'}
    (hserve : ∀ c d, serve' (f c) d = (g (serve c d).1, (serve c d).2)) (cs : List C)
    (ds : List D) :
    drain serve' (cs.map f) ds = ((drain serve cs ds).1.map g, (drain serve cs ds).2.1.map f,
      (drain serve cs ds).2.2) := by
  induction cs generalizing ds with
  | nil => simp
  | cons c cs ih =>
    cases ds with
    | nil => simp
    | cons d ds => rw [List.map_cons, drain_cons, drain_cons, hserve, ih]; rfl

/-- Draining commutes with maps of the requests, the items and the results with which serving
commutes, on requests and items that meet a condition which serving keeps. -/
theorem drain_map_of {C' D' R' : Type*} {serve' : C' → D' → R' × Option D'} {f : C → C'}
    {g : D → D'} {k : R → R'} {P : C → Prop} {Q : D → Prop}
    (hserve : ∀ c d, P c → Q d → serve' (f c) (g d) = (k (serve c d).1, (serve c d).2.map g))
    (hrest : ∀ c d d', Q d → (serve c d).2 = some d' → Q d') {cs : List C} (hcs : ∀ c ∈ cs, P c)
    {ds : List D} (hds : ∀ d ∈ ds, Q d) :
    drain serve' (cs.map f) (ds.map g) = ((drain serve cs ds).1.map k,
      (drain serve cs ds).2.1.map f, (drain serve cs ds).2.2.map g) := by
  induction cs generalizing ds with
  | nil => simp
  | cons c cs ih =>
    cases ds with
    | nil => simp
    | cons d ds =>
      rw [List.forall_mem_cons] at hcs hds
      have hnext : ∀ d' ∈ (serve c d).2.toList ++ ds, Q d' := by
        intro d' hd'
        rcases List.mem_append.mp hd' with h | h
        · exact hrest c d d' hds.1 (Option.mem_toList.mp h)
        · exact hds.2 d' h
      have hi := ih hcs.2 hnext
      rw [List.map_append] at hi
      have hlist : ((serve c d).2.map g).toList = (serve c d).2.toList.map g := by
        cases (serve c d).2 <;> rfl
      rw [List.map_cons, List.map_cons, drain_cons, drain_cons, hserve c d hcs.1 hds.1]
      dsimp only
      rw [hlist, hi, List.map_cons]

/-! ### Cutting a stream into pieces -/

section Streams

variable {β : Type*}

/-- The pieces `ps` were cut, one after the other, from the front of the buffers `bs`, and `rs` is
what is left: a piece is cut from the first buffer that is left, a buffer of which nothing is left
may be dropped, and new buffers come at the end. -/
inductive Cut : List (List β) → List (List β) → List (List β) → Prop
  | nil : Cut [] [] []
  | buffer {bs ps rs} (b : List β) : Cut bs ps rs → Cut (bs ++ [b]) ps (rs ++ [b])
  | piece {bs ps rs} (p r : List β) : Cut bs ps ((p ++ r) :: rs) → Cut bs (ps ++ [p]) (r :: rs)
  | drop {bs ps rs} : Cut bs ps ([] :: rs) → Cut bs ps rs

namespace Cut

variable {bs ps rs : List (List β)}

/-- **Conservation**: the pieces in the order they were cut, followed by what is left, are the
buffers. -/
theorem conserve (h : Cut bs ps rs) : ps.flatten ++ rs.flatten = bs.flatten := by
  induction h with
  | nil => rfl
  | buffer b _ ih => simp [← ih]
  | piece p r _ ih => simpa using ih
  | drop _ ih => simpa using ih

/-- What is left is the unfinished buffers in order; of the first of them it may be a suffix. -/
theorem left (h : Cut bs ps rs) :
    ∃ n, rs.tail = bs.drop (n + 1) ∧ rs.length = bs.length - n ∧ n ≤ bs.length ∧
      ∀ r ∈ rs.head?, ∃ b ∈ bs[n]?, r <:+ b := by
  induction h with
  | nil => exact ⟨0, by simp⟩
  | @buffer bs ps rs b _ ih =>
    obtain ⟨n, htail, hlen, hn, hhead⟩ := ih
    -- if all earlier buffers are finished, the new one is the first unfinished one
    cases rs with
    | nil =>
      have hn' : n = bs.length := by simp at hlen; omega
      exact ⟨n, by simp [hn'], by simp [hn'], by simp [hn'], by simp [hn']⟩
    | cons r rs =>
      have hlt : n < bs.length := by simp at hlen; omega
      refine ⟨n, ?_, by simp at hlen ⊢; omega, by simp; omega, ?_⟩
      · rw [List.tail_cons] at htail
        simp [htail, List.drop_append_of_le_length (show n + 1 ≤ bs.length from hlt)]
      · intro r' hr'
        obtain ⟨b', hb', hsuf⟩ := hhead r' (by simpa using hr')
        exact ⟨b', by rw [List.getElem?_append_left hlt]; exact hb', hsuf⟩
  | piece p r _ ih =>
    obtain ⟨n, htail, hlen, hn, hhead⟩ := ih
    refine ⟨n, by simpa using htail, by simpa using hlen, hn, ?_⟩
    intro r' hr'
    obtain rfl : r = r' := by simpa using hr'
    -- cutting a piece off a suffix leaves a suffix
    obtain ⟨b, hb, hsuf⟩ := hhead (p ++ r) (by simp)
    exact ⟨b, hb, (List.suffix_append p r).trans hsuf⟩
  | @drop bs ps rs _ ih =>
    obtain ⟨n, htail, hlen, hn, hhead⟩ := ih
    rw [List.tail_cons] at htail
    rw [List.length_cons] at hlen
    refine ⟨n + 1, ?_, by omega, by omega, ?_⟩
    · rw [htail, List.tail_drop]
    · intro r hr
      refine ⟨r, ?_, List.suffix_rfl⟩
      rw [htail, List.head?_drop] at hr
      exact hr

/-- **Every piece lies inside one buffer**: the bytes of piece `i` are, in the stream of all
buffers, at positions of a single buffer `j`. -/
theorem inside (h : Cut bs ps rs) {i : ℕ} (hi : i < ps.length) :
    ∃ j, j < bs.length ∧ (bs.take j).flatten.length ≤ (ps.take i).flatten.length ∧
      (ps.take (i + 1)).flatten.length ≤ (bs.take (j + 1)).flatten.length := by
  induction h with
  | nil => simp at hi
  | @buffer bs ps rs b _ ih =>
    obtain ⟨j, hj, hlo, hhi⟩ := ih hi
    refine ⟨j, by simp; omega, ?_, ?_⟩
    · rwa [List.take_append_of_le_length (by omega)]
    · rwa [List.take_append_of_le_length (by omega)]
  | @piece bs ps rs p r h ih =>
    by_cases hlt : i < ps.length
    · obtain ⟨j, hj, hlo, hhi⟩ := ih hlt
      refine ⟨j, hj, ?_, ?_⟩
      · rwa [List.take_append_of_le_length (by omega)]
      · rwa [List.take_append_of_le_length (by omega)]
    · -- the new piece: it comes from the first unfinished buffer
      obtain rfl : i = ps.length := by simp at hi; omega
      obtain ⟨n, htail, hlen, hn, hhead⟩ := h.left
      obtain ⟨b, hb, hsuf⟩ := hhead (p ++ r) (by simp)
      have hnlt : n < bs.length := by simp at hlen; omega
      have hcons := congrArg List.length h.conserve
      have hsplit : (bs.take (n + 1)).flatten.length + (bs.drop (n + 1)).flatten.length
          = bs.flatten.length := by
        rw [← List.length_append, ← List.flatten_append, List.take_append_drop]
      have hb' : bs[n]? = some b := hb
      have htake : (bs.take (n + 1)).flatten.length
          = (bs.take n).flatten.length + b.length := by
        rw [List.take_add_one, hb']
        simp
      have hle := hsuf.length_le
      have hold : (ps ++ [p]).take ps.length = ps := List.take_left
      have hnew : (ps ++ [p]).take (ps.length + 1) = ps ++ [p] :=
        List.take_of_length_le (by simp)
      rw [List.tail_cons] at htail
      simp only [List.length_append, List.flatten_cons, htail] at hcons hle
      refine ⟨n, hnlt, ?_, ?_⟩
      · rw [hold]
        omega
      · rw [hnew, List.flatten_append, List.flatten_singleton, List.length_append]
        omega
  | drop _ ih => exact ih hi

/-- Every piece is a contiguous part of a buffer. -/
theorem isInfix_of_mem (h : Cut bs ps rs) : ∀ p ∈ ps, ∃ b ∈ bs, p <:+: b := by
  induction h with
  | nil => simp
  | buffer b _ ih =>
    intro p hp
    obtain ⟨b', hb', hin⟩ := ih p hp
    exact ⟨b', List.mem_append_left _ hb', hin⟩
  | piece p r h ih =>
    intro q hq
    rcases List.mem_append.mp hq with hq | hq
    · exact ih q hq
    · obtain rfl : q = p := by simpa using hq
      obtain ⟨n, -, -, -, hhead⟩ := h.left
      obtain ⟨b, hb, hsuf⟩ := hhead (q ++ r) (by simp)
      exact ⟨b, List.mem_of_getElem? hb, (List.prefix_append q r).isInfix.trans hsuf.isInfix⟩
  | drop _ ih => exact ih

/-- Draining cuts pieces, if serving a request cuts a piece from the front of what is left of the
item and gives the item up only when nothing is left of it. -/
theorem drain {bytes : D → List β} {out : R → List β}
    (hsome : ∀ c d d', (serve c d).2 = some d' → bytes d = out (serve c d).1 ++ bytes d')
    (hnone : ∀ c d, (serve c d).2 = none → bytes d = out (serve c d).1) (cs : List C)
    (ds : List D) {ps : List (List β)} (h : Cut bs ps (ds.map bytes)) :
    Cut bs (ps ++ (GreedyMatch.drain serve cs ds).1.map out)
      ((GreedyMatch.drain serve cs ds).2.2.map bytes) := by
  induction cs generalizing ds ps with
  | nil => simpa using h
  | cons c cs ih =>
    cases ds with
    | nil => simpa using h
    | cons d ds =>
      rw [drain_cons]
      rw [List.map_cons] at h
      -- serving one request cuts one piece; the item is given up if nothing is left of it
      have hnext : Cut bs (ps ++ [out (serve c d).1])
          (((serve c d).2.toList ++ ds).map bytes) := by
        cases hd : (serve c d).2 with
        | none =>
          rw [hnone c d hd, ← List.append_nil (out _)] at h
          exact (h.piece _ _).drop
        | some d' =>
          rw [hsome c d d' hd] at h
          exact h.piece _ _
      simpa using ih _ hnext

end Cut

end Streams

end GreedyMatch

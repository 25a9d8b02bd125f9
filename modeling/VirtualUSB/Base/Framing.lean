import Mathlib.Data.List.Basic
import Mathlib.Data.List.Infix
import Mathlib.Data.List.Flatten
import Mathlib.Tactic.Common

/-!
# Streams of frames with a fixed header

A frame is a header of fixed length followed by a body whose length the header determines.
`split` cuts a stream into its complete frames and an incomplete rest.

* `split_flatten`: `split` undoes the concatenation of frames, and of a part of a stream it gives
  the first frames (`split_of_isPrefix`).
* `isPrefix_of_flatten`: a stream of frames is parsed uniquely: frames that begin a stream of
  frames are the first frames of it.
* `eq_complete`: after any number of symbols the frames that were read are exactly those that end
  within these symbols.
-/

/-- A frame format: the length of the header and, as a function of the header, the length of the
body. -/
structure Framing (β : Type*) where
  /-- The length of every header. -/
  header : ℕ
  /-- The length of the body that follows a header. -/
  body : List β → ℕ
  /-- Headers are not empty. -/
  header_pos : 0 < header

namespace Framing

variable {β : Type*} (F : Framing β)

/-- The length of the frame that a stream of at least `F.header` symbols begins with. -/
def frameLength (bs : List β) : ℕ :=
  F.header + F.body (bs.take F.header)

/-- A header with its whole body. -/
def IsFrame (f : List β) : Prop :=
  F.header ≤ f.length ∧ f.length = F.frameLength f

/-- A stream that does not yet contain its first frame. -/
def Incomplete (p : List β) : Prop :=
  p.length < F.header ∨ p.length < F.frameLength p

theorem incomplete_nil : F.Incomplete [] :=
  Or.inl F.header_pos

variable {F}

theorem IsFrame.length_pos {f : List β} (h : F.IsFrame f) : 0 < f.length :=
  lt_of_lt_of_le F.header_pos h.1

/-- A longer stream with the same header has a first frame of the same length. -/
theorem frameLength_eq_of_isPrefix {f g : List β} (h : f <+: g) (hf : F.header ≤ f.length) :
    F.frameLength g = F.frameLength f := by
  obtain ⟨t, rfl⟩ := h
  unfold frameLength
  rw [List.take_append_of_le_length hf]

/-- A frame at the front of a stream is the first `frameLength` symbols of it. -/
theorem IsFrame.eq_take {f s : List β} (hf : F.IsFrame f) (h : f <+: s) :
    f = s.take (F.frameLength s) := by
  rw [frameLength_eq_of_isPrefix h hf.1, ← hf.2]
  exact List.prefix_iff_eq_take.mp h

/-- Two frames at the front of one stream are equal. -/
theorem IsFrame.unique {f g s : List β} (hf : F.IsFrame f) (hg : F.IsFrame g) (hfs : f <+: s)
    (hgs : g <+: s) : f = g := by
  rw [hf.eq_take hfs, hg.eq_take hgs]

/-- An incomplete stream that begins a frame is shorter than it. -/
theorem Incomplete.length_lt {p g s : List β} (hp : F.Incomplete p) (hg : F.IsFrame g)
    (hps : p <+: s) (hgs : g <+: s) : p.length < g.length := by
  by_contra hle
  have hgp : g <+: p := List.prefix_of_prefix_length_le hgs hps (Nat.not_lt.mp hle)
  have hlen := frameLength_eq_of_isPrefix hgp hg.1
  have hle' := hgp.length_le
  rcases hp with h | h
  · have := hg.1
    omega
  · rw [hlen, ← hg.2] at h
    omega

/-! ### Cutting a stream into frames -/

variable (F)

/-- The complete frames at the front of a stream and what is left; `n` bounds their number. -/
def splitFuel : ℕ → List β → List (List β) × List β
  | 0, bs => ([], bs)
  | n + 1, bs =>
    if bs.length < F.header ∨ bs.length < F.frameLength bs then ([], bs)
    else
      let rest := splitFuel n (bs.drop (F.frameLength bs))
      (bs.take (F.frameLength bs) :: rest.1, rest.2)

/-- The complete frames at the front of a stream and the incomplete rest. -/
def split (bs : List β) : List (List β) × List β :=
  F.splitFuel bs.length bs

variable {F}

theorem splitFuel_flatten {fs : List (List β)} (hfs : ∀ f ∈ fs, F.IsFrame f) {p : List β}
    (hp : F.Incomplete p) {n : ℕ} (hn : fs.length ≤ n) :
    F.splitFuel n (fs.flatten ++ p) = (fs, p) := by
  induction n generalizing fs with
  | zero =>
    obtain rfl : fs = [] := List.length_eq_zero_iff.mp (Nat.le_zero.mp hn)
    rfl
  | succ n ih =>
    cases fs with
    | nil =>
      rw [splitFuel, List.flatten_nil, List.nil_append]
      exact if_pos hp
    | cons f fs =>
      -- the length of the first frame is read off its header, whatever follows it
      have hf := hfs f (List.mem_cons_self ..)
      have hpre : f <+: (f :: fs).flatten ++ p := by
        rw [List.flatten_cons, List.append_assoc]
        exact List.prefix_append _ _
      have hlen : F.frameLength ((f :: fs).flatten ++ p) = f.length := by
        rw [frameLength_eq_of_isPrefix hpre hf.1, ← hf.2]
      have hle := hpre.length_le
      rw [splitFuel, hlen, if_neg (by have := hf.1; omega)]
      rw [List.flatten_cons, List.append_assoc, List.take_left, List.drop_left]
      simp only [ih (fun g hg => hfs g (List.mem_cons_of_mem _ hg))
        (Nat.le_of_succ_le_succ hn)]

/-- There are at most as many frames as symbols. -/
theorem length_le_length_flatten {fs : List (List β)} (hfs : ∀ f ∈ fs, F.IsFrame f) :
    fs.length ≤ fs.flatten.length := by
  induction fs with
  | nil => simp
  | cons f fs ih =>
    have h1 := (hfs f (List.mem_cons_self ..)).length_pos
    have h2 := ih fun g hg => hfs g (List.mem_cons_of_mem _ hg)
    rw [List.length_cons, List.flatten_cons, List.length_append]
    omega

/-- **Splitting undoes concatenation.** -/
theorem split_flatten {fs : List (List β)} (hfs : ∀ f ∈ fs, F.IsFrame f) :
    F.split fs.flatten = (fs, []) := by
  have h := splitFuel_flatten hfs F.incomplete_nil (length_le_length_flatten hfs)
  rwa [List.append_nil] at h

/-- A stream that begins a stream of frames consists of the first of these frames and of an
incomplete rest. -/
theorem exists_take_of_isPrefix {fs : List (List β)} (hfs : ∀ f ∈ fs, F.IsFrame f) {bs : List β}
    (h : bs <+: fs.flatten) :
    ∃ n p, bs = (fs.take n).flatten ++ p ∧ F.Incomplete p := by
  induction fs generalizing bs with
  | nil =>
    obtain rfl : bs = [] := List.prefix_nil.mp h
    exact ⟨0, [], rfl, F.incomplete_nil⟩
  | cons f fs ih =>
    have hf := hfs f (List.mem_cons_self ..)
    rw [List.flatten_cons] at h
    rcases Nat.lt_or_ge bs.length f.length with hlt | hge
    · -- the first frame is not complete yet
      refine ⟨0, bs, rfl, ?_⟩
      rcases Nat.lt_or_ge bs.length F.header with hhdr | hhdr
      · exact .inl hhdr
      · have hpre := List.prefix_of_prefix_length_le h (List.prefix_append f _) hlt.le
        refine .inr ?_
        rw [← frameLength_eq_of_isPrefix hpre hhdr, ← hf.2]
        exact hlt
    · obtain ⟨bs, rfl⟩ := List.prefix_of_prefix_length_le (List.prefix_append f _) h hge
      rw [List.prefix_append_right_inj] at h
      obtain ⟨n, p, rfl, hp⟩ := ih (fun g hg => hfs g (List.mem_cons_of_mem _ hg)) h
      exact ⟨n + 1, p, by rw [List.take_succ_cons, List.flatten_cons, List.append_assoc], hp⟩

/-- **Splitting a part of a stream** gives the first frames of the stream. -/
theorem split_of_isPrefix {fs : List (List β)} (hfs : ∀ f ∈ fs, F.IsFrame f) {bs : List β}
    (h : bs <+: fs.flatten) :
    ∃ n p, F.split bs = (fs.take n, p) ∧ bs = (fs.take n).flatten ++ p := by
  obtain ⟨n, p, rfl, hp⟩ := exists_take_of_isPrefix hfs h
  have htake : ∀ f ∈ fs.take n, F.IsFrame f := fun f hf => hfs f (List.mem_of_mem_take hf)
  refine ⟨n, p, splitFuel_flatten htake hp ?_, rfl⟩
  have hlen := length_le_length_flatten htake
  rw [List.length_append]
  omega

/-! ### Unique parsing -/

/-- **Unique parsing**: if frames followed by more symbols begin a stream of frames, they are the
first frames of that stream. -/
theorem isPrefix_of_flatten {fs gs : List (List β)} {p : List β} (hfs : ∀ f ∈ fs, F.IsFrame f)
    (hgs : ∀ g ∈ gs, F.IsFrame g) (h : fs.flatten ++ p <+: gs.flatten) :
    ∃ rest, gs = fs ++ rest ∧ p <+: rest.flatten := by
  induction fs generalizing gs with
  | nil => exact ⟨gs, rfl, h⟩
  | cons f fs ih =>
    have hf := hfs f (List.mem_cons_self ..)
    rw [List.flatten_cons, List.append_assoc] at h
    cases gs with
    | nil =>
      have hlen := h.length_le
      have := hf.length_pos
      simp only [List.length_append, List.flatten_nil, List.length_nil] at hlen
      omega
    | cons g gs =>
      rw [List.flatten_cons] at h
      -- both first frames are prefixes of the same stream
      have hfg : f = g := hf.unique (hgs g (List.mem_cons_self ..))
        ((List.prefix_append _ _).trans h) (List.prefix_append _ _)
      rw [hfg, List.prefix_append_right_inj] at h
      obtain ⟨rest, hrest, hp⟩ := ih (fun x hx => hfs x (List.mem_cons_of_mem _ hx))
        (fun x hx => hgs x (List.mem_cons_of_mem _ hx)) h
      exact ⟨rest, by rw [hfg, hrest, List.cons_append], hp⟩

/-- A header that begins after complete frames in a stream of frames is the header of one of these
frames. -/
theorem exists_take_header {fs gs : List (List β)} {hdr : List β} (hfs : ∀ f ∈ fs, F.IsFrame f)
    (hgs : ∀ g ∈ gs, F.IsFrame g) (h : fs.flatten ++ hdr <+: gs.flatten)
    (hlen : hdr.length = F.header) : ∃ g ∈ gs, g.take F.header = hdr := by
  obtain ⟨rest, rfl, hpre⟩ := isPrefix_of_flatten hfs hgs h
  cases rest with
  | nil =>
    have hle := hpre.length_le
    have := F.header_pos
    rw [List.flatten_nil, List.length_nil] at hle
    omega
  | cons g rest =>
    have hmem : g ∈ fs ++ g :: rest := List.mem_append_right _ (List.mem_cons_self ..)
    refine ⟨g, hmem, ?_⟩
    have hpre' : g <+: (g :: rest).flatten := by
      rw [List.flatten_cons]
      exact List.prefix_append _ _
    have hhdr : hdr <+: g := List.prefix_of_prefix_length_le hpre hpre'
      (hlen.trans_le (hgs g hmem).1)
    rw [← hlen]
    exact (List.prefix_iff_eq_take.mp hhdr).symm

/-- The items of a list, each sent as the symbols `f x`, that end within the first `n` symbols. -/
def complete {α : Type*} (f : α → List β) : ℕ → List α → List α
  | _, [] => []
  | n, x :: xs => if (f x).length ≤ n then x :: complete f (n - (f x).length) xs else []

theorem complete_isPrefix {α : Type*} (f : α → List β) (n : ℕ) (xs : List α) :
    complete f n xs <+: xs := by
  induction xs generalizing n with
  | nil => exact List.prefix_rfl
  | cons x xs ih =>
    rw [complete]
    split_ifs
    · exact (List.prefix_cons_inj x).mpr (ih _)
    · exact List.nil_prefix

/-- Everything is complete when all symbols are there. -/
theorem complete_all {α : Type*} (f : α → List β) (xs : List α) :
    complete f (xs.flatMap f).length xs = xs := by
  induction xs with
  | nil => rfl
  | cons x xs ih =>
    rw [complete, List.flatMap_cons, List.length_append, if_pos (Nat.le_add_right _ _),
      Nat.add_sub_cancel_left, ih]

/-- **What was read is what is complete**: if the frames `fs` and an incomplete rest `p` begin the
stream that sends the items `xs`, then `fs` are the frames of the items that end within the
symbols read. -/
theorem eq_complete {α : Type*} {f : α → List β} {xs : List α} (hxs : ∀ x ∈ xs, F.IsFrame (f x))
    {fs : List (List β)} (hfs : ∀ g ∈ fs, F.IsFrame g) {p : List β} (hp : F.Incomplete p)
    (h : fs.flatten ++ p <+: xs.flatMap f) :
    fs = (complete f (fs.flatten ++ p).length xs).map f := by
  rw [List.flatMap_def] at h
  obtain ⟨rest, hrest, hpre⟩ := isPrefix_of_flatten hfs
    (by simpa using fun x hx => hxs x hx) h
  clear h
  induction fs generalizing xs with
  | nil =>
    -- the rest is shorter than the first frame of what is left
    rw [List.nil_append] at hrest
    subst hrest
    cases xs with
    | nil => rfl
    | cons x xs =>
      have hlt := hp.length_lt (hxs x (List.mem_cons_self ..)) hpre
        (by rw [List.map_cons, List.flatten_cons]; exact List.prefix_append _ _)
      rw [List.flatten_nil, List.nil_append, complete, if_neg (Nat.not_le.mpr hlt)]
      rfl
  | cons g fs ih =>
    cases xs with
    | nil => simp at hrest
    | cons x xs =>
      rw [List.map_cons, List.cons_append] at hrest
      obtain ⟨hx, hrest'⟩ := List.cons.inj hrest
      have hi := ih (fun y hy => hxs y (List.mem_cons_of_mem _ hy))
        (fun y hy => hfs y (List.mem_cons_of_mem _ hy)) hrest'
      have hlen : ((g :: fs).flatten ++ p).length - (f x).length = (fs.flatten ++ p).length := by
        rw [hx]
        simp only [List.flatten_cons, List.length_append]
        omega
      have hle : (f x).length ≤ ((g :: fs).flatten ++ p).length := by
        rw [hx]
        simp only [List.flatten_cons, List.length_append]
        omega
      rw [complete, if_pos hle, hlen, List.map_cons, ← hi, hx]

end Framing

import Mathlib.Data.List.Basic
import Mathlib.Tactic.Common

/-!
# Cyclic memory

A piece of memory of `cap` elements in which counting goes on at 0 behind the last element.

* `window` is the list of the elements from a position on.
* `window_eq_segments`: a window is read in two pieces without counting modulo `cap`.
* `copyCyclic`: a list is stored in two pieces; `copyCyclic_get` says what is where afterwards.
* `window_copyCyclic`: what is stored behind a window is appended to it.
-/

namespace Cyclic

variable {T : Type*} {cap : ℕ} {buf : ℕ → T}

/-! ### Pieces of memory -/

/-- The `n` elements from `off` on. -/
def segment (buf : ℕ → T) (off n : ℕ) : List T :=
  (List.range n).map fun k => buf (off + k)

/-- The memory after `data` was copied to `off`. -/
def copyTo (buf : ℕ → T) (off : ℕ) (data : List T) : ℕ → T :=
  fun i => if off ≤ i then (data[i - off]?).getD (buf i) else buf i

@[simp] theorem length_segment (off n : ℕ) : (segment buf off n).length = n := by
  simp [segment]

theorem copyTo_nil (buf : ℕ → T) (off : ℕ) : copyTo buf off [] = buf := by
  funext i
  simp [copyTo]

theorem copyTo_of_lt {off i : ℕ} {data : List T} (h : i < off) : copyTo buf off data i = buf i :=
  if_neg (by omega)

theorem copyTo_of_le {off i : ℕ} {data : List T} (h : off + data.length ≤ i) :
    copyTo buf off data i = buf i := by
  rw [copyTo, if_pos (by omega), List.getElem?_eq_none (by omega)]
  rfl

theorem copyTo_add {off k : ℕ} {data : List T} (h : k < data.length) :
    copyTo buf off data (off + k) = data[k] := by
  rw [copyTo, if_pos (by omega), Nat.add_sub_cancel_left, List.getElem?_eq_getElem h]
  rfl

/-! ### Counting modulo the size -/

theorem mod_eq_ite {a : ℕ} (h : a < 2 * cap) : a % cap = if a < cap then a else a - cap := by
  split_ifs with hlt
  · exact Nat.mod_eq_of_lt hlt
  · rw [Nat.mod_eq_sub_mod (by omega), Nat.mod_eq_of_lt (by omega)]

/-! ### Windows -/

/-- The `n` elements of a cyclic memory from `start` on. -/
def window (cap : ℕ) (buf : ℕ → T) (start n : ℕ) : List T :=
  (List.range n).map fun k => buf ((start + k) % cap)

@[simp] theorem length_window (start n : ℕ) : (window cap buf start n).length = n := by
  simp [window]

@[simp] theorem window_zero (start : ℕ) : window cap buf start 0 = [] := rfl

theorem window_congr {buf' : ℕ → T} {start n : ℕ}
    (h : ∀ k < n, buf' ((start + k) % cap) = buf ((start + k) % cap)) :
    window cap buf' start n = window cap buf start n :=
  List.map_congr_left fun k hk => h k (List.mem_range.mp hk)

/-- A window depends on where it begins in the memory only. -/
theorem window_mod (start n : ℕ) : window cap buf (start % cap) n = window cap buf start n :=
  List.map_congr_left fun k _ => by rw [Nat.mod_add_mod]

theorem window_add (start m n : ℕ) :
    window cap buf start (m + n) = window cap buf start m ++ window cap buf (start + m) n := by
  rw [window, List.range_add, List.map_append, List.map_map]
  simp only [window, Function.comp_def, Nat.add_assoc]

theorem take_window {start m n : ℕ} (h : m ≤ n) :
    (window cap buf start n).take m = window cap buf start m := by
  obtain ⟨k, rfl⟩ := Nat.exists_eq_add_of_le h
  rw [window_add, List.take_left' (length_window ..)]

theorem drop_window {start m n : ℕ} (h : m ≤ n) :
    (window cap buf start n).drop m = window cap buf (start + m) (n - m) := by
  obtain ⟨k, rfl⟩ := Nat.exists_eq_add_of_le h
  rw [window_add, List.drop_left' (length_window ..), Nat.add_sub_cancel_left]

/-- A window that does not reach the end is a piece of the memory. -/
theorem window_eq_segment {start n : ℕ} (h : start + n ≤ cap) :
    window cap buf start n = segment buf start n :=
  List.map_congr_left fun k hk => by
    rw [Nat.mod_eq_of_lt (by have := List.mem_range.mp hk; omega)]

/-- **A window is read in two pieces**: up to the end of the memory, and from its beginning. -/
theorem window_eq_segments {start n : ℕ} (hstart : start < cap) (hn : n ≤ cap) :
    window cap buf start n = segment buf start (min n (cap - start))
      ++ segment buf 0 (n - min n (cap - start)) := by
  rcases Nat.le_total n (cap - start) with hle | hle
  · rw [Nat.min_eq_left hle, Nat.sub_self, window_eq_segment (by omega)]
    exact (List.append_nil _).symm
  · have hsplit : n = (cap - start) + (n - (cap - start)) := by omega
    rw [Nat.min_eq_right hle]
    conv_lhs => rw [hsplit]
    rw [window_add, window_eq_segment (by omega), ← window_mod,
      Nat.add_sub_cancel' (Nat.le_of_lt hstart), Nat.mod_self, window_eq_segment (by omega)]

/-! ### Storing a list -/

/-- The memory after `data` was stored from `off` on: up to the end, and from the beginning. -/
def copyCyclic (cap : ℕ) (buf : ℕ → T) (off : ℕ) (data : List T) : ℕ → T :=
  copyTo (copyTo buf off (data.take (cap - off))) 0 (data.drop (cap - off))

/-- **What is where after a list was stored**: the list from `off` on, and elsewhere what was
there. -/
theorem copyCyclic_get {off k : ℕ} {data : List T} (hoff : off < cap) (hdata : data.length ≤ cap)
    (hk : k < cap) :
    copyCyclic cap buf off data ((off + k) % cap)
      = (data[k]?).getD (buf ((off + k) % cap)) := by
  have htake : (data.take (cap - off)).length = min (cap - off) data.length := List.length_take
  have hdrop : (data.drop (cap - off)).length = data.length - (cap - off) := List.length_drop
  rw [copyCyclic]
  rcases Nat.lt_or_ge (off + k) cap with hlt | hge
  · -- the first piece
    rw [Nat.mod_eq_of_lt hlt, copyTo_of_le (by omega)]
    by_cases hin : k < data.length
    · rw [copyTo_add (by omega), List.getElem_take, List.getElem?_eq_getElem hin]
      rfl
    · rw [copyTo_of_le (by omega), List.getElem?_eq_none (by omega)]
      rfl
  · -- the second piece
    have hmod : (off + k) % cap = off + k - cap := by
      rw [mod_eq_ite (by omega), if_neg (by omega)]
    rw [hmod]
    by_cases hin : k < data.length
    · rw [show off + k - cap = 0 + (off + k - cap) from (Nat.zero_add _).symm,
        copyTo_add (by omega), List.getElem_drop, List.getElem?_eq_getElem hin, Option.getD_some]
      congr 1
      omega
    · rw [copyTo_of_le (by omega), copyTo_of_lt (by omega), List.getElem?_eq_none (by omega)]
      rfl

/-- Nothing outside of the memory is changed. -/
theorem copyCyclic_outside {off i : ℕ} {data : List T} (hoff : off < cap)
    (hdata : data.length ≤ cap) (hi : cap ≤ i) : copyCyclic cap buf off data i = buf i := by
  have htake : (data.take (cap - off)).length = min (cap - off) data.length := List.length_take
  have hdrop : (data.drop (cap - off)).length = data.length - (cap - off) := List.length_drop
  rw [copyCyclic, copyTo_of_le (by omega), copyTo_of_le (by omega)]

/-- **What is stored behind a window is appended to it**, if there is room. -/
theorem window_copyCyclic {start n : ℕ} {data : List T} (hcap : 0 < cap)
    (hroom : n + data.length ≤ cap) :
    window cap (copyCyclic cap buf ((start + n) % cap) data) start (n + data.length)
      = window cap buf start n ++ data := by
  have hoff : (start + n) % cap < cap := Nat.mod_lt _ hcap
  rw [window_add]
  congr 1
  · -- the window ends where the list begins, and the list ends before the window begins
    refine window_congr fun k hk => ?_
    have hindex : ((start + n) % cap + (cap - n + k)) % cap = (start + k) % cap := by
      rw [Nat.mod_add_mod, show start + n + (cap - n + k) = start + k + cap by omega,
        Nat.add_mod_right]
    rw [← hindex, copyCyclic_get hoff (by omega) (by omega), List.getElem?_eq_none (by omega)]
    rfl
  · refine List.ext_getElem (length_window ..) fun k hk hk' => ?_
    simp only [window, List.getElem_map, List.getElem_range]
    rw [show (start + n + k) % cap = ((start + n) % cap + k) % cap from (Nat.mod_add_mod ..).symm,
      copyCyclic_get hoff (by omega) (by omega), List.getElem?_eq_getElem hk']
    rfl

end Cyclic

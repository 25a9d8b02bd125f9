import Mathlib.Data.Set.Operations
import Mathlib.Tactic.LinearCombination
import Mathlib.Tactic.Ring
import VirtualUSB.Toastbox.HashInts

/-!
# `hash_ints` tells buffers apart that differ in one integer

Two buffers that differ only within four bytes in a row, as buffers of integers do of which one is
changed, never have the same hash (`hashInts_eq_iff`).

A step of the loop is injective in the state (`step_injective`), so only the four bytes matter.
There the two states begin alike, and `gap` is how far they are apart.  An `xor` with a byte changes
the lowest eight bits of a state only, so it changes the gap by at most `510` (`gap_xor`); the
product with the prime `2 ^ 40 + 435` multiplies it, up to multiples of `2 ^ 64` (`gap_mul`).  If
the states are alike again after four bytes, then these changes solve an equation whose only
solution is zero (`changes_eq_zero`): its lowest forty bits are a number to the base `435`.
-/

namespace VirtualUSB

namespace HashInts

/-! ### One step -/

theorem mul_prime_injective : Function.Injective (· * prime) := by
  intro x y h
  have hinv : prime * 0xce965057aff6957b = 1 := by decide
  have hmul := congrArg (· * 0xce965057aff6957b) h
  simpa only [UInt64.mul_assoc, hinv, UInt64.mul_one] using hmul

theorem step_injective (byte : UInt8) : Function.Injective (step · byte) := by
  intro x y h
  have hxor := congrArg (· ^^^ byte.toUInt64) (mul_prime_injective h)
  simpa only [UInt64.xor_assoc, UInt64.xor_self, UInt64.xor_zero] using hxor

theorem foldl_injective (bytes : List UInt8) : Function.Injective (bytes.foldl step ·) := by
  induction bytes with
  | nil => exact fun _ _ h => h
  | cons byte bytes ih => exact fun x y h => step_injective byte (ih h)

theorem xor_byte_injective (x : UInt64) :
    Function.Injective (x ^^^ ·.toUInt64 : UInt8 → UInt64) := by
  intro a b h
  have hxor := congrArg (x ^^^ ·) h
  simp only [← UInt64.xor_assoc, UInt64.xor_self, UInt64.zero_xor] at hxor
  have hnat := congrArg UInt64.toNat hxor
  rwa [UInt8.toNat_toUInt64, UInt8.toNat_toUInt64, UInt8.toNat_inj] at hnat

/-! ### Gaps -/

/-- How far the state `x` is above the state `y`. -/
def gap (x y : UInt64) : ℤ :=
  x.toNat - y.toNat

theorem gap_self (x : UInt64) : gap x x = 0 :=
  sub_self _

theorem eq_of_gap {x y : UInt64} (h : gap x y = 0) : x = y := by
  rw [gap] at h
  exact UInt64.toNat_inj.mp (by omega)

theorem toNat_xor_div (x : UInt64) (byte : UInt8) :
    (x ^^^ byte.toUInt64).toNat / 256 = x.toNat / 256 := by
  have hbyte : byte.toNat / 2 ^ 8 = 0 := Nat.div_eq_of_lt byte.toNat_lt
  rw [UInt64.toNat_xor, UInt8.toNat_toUInt64, show 256 = 2 ^ 8 from rfl, Nat.xor_div_two_pow, hbyte,
    Nat.xor_zero]

theorem gap_xor (x y : UInt64) (a b : UInt8) :
    |gap (x ^^^ a.toUInt64) (y ^^^ b.toUInt64) - gap x y| ≤ 510 := by
  have hx := toNat_xor_div x a
  have hy := toNat_xor_div y b
  rw [gap, gap, abs_le]
  omega

/-- States that an `xor` has made alike are close. -/
theorem gap_of_xor_eq {x y : UInt64} {a b : UInt8} (h : x ^^^ a.toUInt64 = y ^^^ b.toUInt64) :
    |gap x y| ≤ 255 := by
  have hx := toNat_xor_div x a
  have hy := toNat_xor_div y b
  rw [h, hy] at hx
  rw [gap, abs_le]
  omega

theorem toNat_mul_prime (x : UInt64) :
    ∃ k : ℤ, ((x * prime).toNat : ℤ) = (2 ^ 40 + 435) * x.toNat + 2 ^ 64 * k := by
  have hprime : prime.toNat = 2 ^ 40 + 435 := by decide
  refine ⟨-((x.toNat * prime.toNat / 2 ^ 64 : ℕ) : ℤ), ?_⟩
  have hdiv := congrArg (Nat.cast : ℕ → ℤ) (Nat.div_add_mod (x.toNat * prime.toNat) (2 ^ 64))
  rw [← UInt64.toNat_mul, hprime] at hdiv
  push_cast at hdiv
  rw [hprime]
  push_cast
  linear_combination hdiv

theorem gap_mul (x y : UInt64) :
    ∃ k, gap (x * prime) (y * prime) = (2 ^ 40 + 435) * gap x y + 2 ^ 64 * k := by
  obtain ⟨k, hk⟩ := toNat_mul_prime x
  obtain ⟨l, hl⟩ := toNat_mul_prime y
  exact ⟨k - l, by rw [gap, gap, hk, hl]; ring⟩

theorem gap_step (x y : UInt64) (a b : UInt8) :
    ∃ k, gap (step x a) (step y b) = (2 ^ 40 + 435) *
      (gap x y + (gap (x ^^^ a.toUInt64) (y ^^^ b.toUInt64) - gap x y)) + 2 ^ 64 * k := by
  rw [add_sub_cancel]
  exact gap_mul _ _

/-- The equation for the changes of the gap: `d₀` at the first byte, `d₁` and `d₂` at the next two,
with `g₁`, `g₂` and `g₃` after each of them. -/
theorem changes_eq_zero {d₀ d₁ d₂ g₁ g₂ g₃ : ℤ} (hd₀ : |d₀| ≤ 255) (hd₁ : |d₁| ≤ 510)
    (hd₂ : |d₂| ≤ 510) (hg₃ : |g₃| ≤ 255) (h₁ : ∃ k, g₁ = (2 ^ 40 + 435) * d₀ + 2 ^ 64 * k)
    (h₂ : ∃ k, g₂ = (2 ^ 40 + 435) * (g₁ + d₁) + 2 ^ 64 * k)
    (h₃ : ∃ k, g₃ = (2 ^ 40 + 435) * (g₂ + d₂) + 2 ^ 64 * k) : d₀ = 0 ∧ d₁ = 0 ∧ d₂ = 0 := by
  obtain ⟨k, hk⟩ : ∃ k, g₃ = 435 * (435 * (435 * d₀ + d₁) + d₂)
      + 2 ^ 40 * (3 * 435 ^ 2 * d₀ + 2 * 435 * d₁ + d₂ + 2 ^ 24 * k) := by
    obtain ⟨k₁, rfl⟩ := h₁
    obtain ⟨k₂, rfl⟩ := h₂
    obtain ⟨k₃, rfl⟩ := h₃
    exact ⟨(2 ^ 56 + 3 * 435 * 2 ^ 16) * d₀ + 2 ^ 16 * d₁ + (2 ^ 40 + 435) ^ 2 * k₁
      + (2 ^ 40 + 435) * k₂ + k₃, by ring⟩
  clear h₁ h₂ h₃
  rw [abs_le] at hd₀ hd₁ hd₂ hg₃
  -- the lowest forty bits are a number to the base `435`, too small to be a multiple of `2 ^ 40`
  have hhigh : 3 * 435 ^ 2 * d₀ + 2 * 435 * d₁ + d₂ + 2 ^ 24 * k = 0 := by
    generalize 3 * 435 ^ 2 * d₀ + 2 * 435 * d₁ + d₂ + 2 ^ 24 * k = high at hk ⊢
    omega
  rw [hhigh, mul_zero, add_zero] at hk
  have hdigits : 435 * (435 * d₀ + d₁) + d₂ = 0 := by omega
  have hdouble : 870 * d₀ + d₁ = 0 := by omega
  omega

/-! ### Four bytes -/

theorem eq_of_gap_xor {x : UInt64} {a b : UInt8}
    (h : gap (x ^^^ a.toUInt64) (x ^^^ b.toUInt64) = 0) : a = b :=
  xor_byte_injective x (eq_of_gap h)

theorem foldl_four_injective {x : UInt64} {a₀ a₁ a₂ a₃ b₀ b₁ b₂ b₃ : UInt8}
    (h : [a₀, a₁, a₂, a₃].foldl step x = [b₀, b₁, b₂, b₃].foldl step x) :
    [a₀, a₁, a₂, a₃] = [b₀, b₁, b₂, b₃] := by
  simp only [List.foldl_cons, List.foldl_nil] at h
  -- what each byte changes
  have hchange₀ : |gap (x ^^^ a₀.toUInt64) (x ^^^ b₀.toUInt64)| ≤ 255 := by
    refine gap_of_xor_eq (a := a₀) (b := b₀) ?_
    rw [UInt64.xor_assoc, UInt64.xor_self, UInt64.xor_assoc, UInt64.xor_self]
  have hchange₁ := gap_xor (step x a₀) (step x b₀) a₁ b₁
  have hchange₂ := gap_xor (step (step x a₀) a₁) (step (step x b₀) b₁) a₂ b₂
  have hlast := gap_of_xor_eq (mul_prime_injective h)
  obtain ⟨h₀, h₁, h₂⟩ := changes_eq_zero hchange₀ hchange₁ hchange₂ hlast (gap_mul _ _)
    (gap_step ..) (gap_step ..)
  -- so the states are alike after each of them
  obtain rfl := eq_of_gap_xor h₀
  rw [gap_self, sub_zero] at h₁
  obtain rfl := eq_of_gap_xor h₁
  rw [gap_self, sub_zero] at h₂
  obtain rfl := eq_of_gap_xor h₂
  obtain rfl := xor_byte_injective _ (mul_prime_injective h)
  rfl

/-- So are up to four bytes: bytes behind them that are alike change nothing. -/
theorem foldl_window_injective {x : UInt64} {as bs : List UInt8} (hlen : as.length = bs.length)
    (hwin : as.length ≤ 4) (h : as.foldl step x = bs.foldl step x) : as = bs := by
  obtain ⟨pad, hpad⟩ : ∃ pad : List UInt8, as.length + pad.length = 4 :=
    ⟨List.replicate (4 - as.length) 0, by rw [List.length_replicate]; omega⟩
  have hfold : (as ++ pad).foldl step x = (bs ++ pad).foldl step x := by
    rw [List.foldl_append, List.foldl_append, h]
  obtain ⟨a₀, a₁, a₂, a₃, ha⟩ := List.length_eq_four.mp (as.length_append.trans hpad)
  obtain ⟨b₀, b₁, b₂, b₃, hb⟩ := List.length_eq_four.mp (bs.length_append.trans (hlen ▸ hpad))
  rw [ha, hb] at hfold
  have heq := foldl_four_injective hfold
  rw [← ha, ← hb] at heq
  exact List.append_cancel_right heq

end HashInts

/-! ### Buffers -/

open HashInts

theorem Ptr.read_eq_iff {p q : Ptr} {n : ℕ} : p.read n = q.read n ↔ ∀ k < n, p k = q k := by
  rw [Ptr.read, Ptr.read, List.map_inj_left]
  simp only [List.mem_range]

/-- A buffer is what is before an index, the window of four bytes there and what is behind. -/
theorem Ptr.read_window (p : Ptr) (n i : ℕ) :
    p.read n = (p.read n).take i ++ (((p.read n).drop i).take 4 ++ ((p.read n).drop i).drop 4) := by
  rw [List.take_append_drop, List.take_append_drop]

/-- **The hash tells buffers apart that differ in one integer**: if nothing in them differs but the
four bytes from `i` on, then the hashes are equal only if the buffers are. -/
theorem hashInts_eq_iff {bytes bytes' : Ptr} {len : Int32} {i : ℕ}
    (h : ∀ k < len.toInt.toNat, k < i ∨ i + 4 ≤ k → bytes k = bytes' k) :
    hashInts bytes len = hashInts bytes' len ↔ ∀ k < len.toInt.toNat, bytes k = bytes' k := by
  rw [← Ptr.read_eq_iff, hashInts, hashInts]
  generalize len.toInt.toNat = n at h ⊢
  refine ⟨fun heq => ?_, fun heq => by rw [heq]⟩
  have hbefore : (bytes.read n).take i = (bytes'.read n).take i := by
    refine List.ext_getElem (by simp) fun k hk _ => ?_
    rw [List.length_take, Ptr.length_read] at hk
    simpa [Ptr.read] using h k (by omega) (.inl (by omega))
  have hbehind : ((bytes.read n).drop i).drop 4 = ((bytes'.read n).drop i).drop 4 := by
    refine List.ext_getElem (by simp) fun k hk _ => ?_
    rw [List.length_drop, List.length_drop, Ptr.length_read] at hk
    simpa [Ptr.read, Nat.add_assoc] using h (i + (4 + k)) (by omega) (.inr (by omega))
  rw [bytes.read_window n i, bytes'.read_window n i, ← hbefore, ← hbehind, List.foldl_append,
    List.foldl_append, List.foldl_append, List.foldl_append] at heq
  have hwindow := foldl_window_injective (by simp) (List.length_take_le _ _) (foldl_injective _ heq)
  rw [bytes.read_window n i, bytes'.read_window n i, ← hbefore, ← hbehind, hwindow]

/-- An array of three integers. -/
def threeInts : Ptr := Nat.toUInt8

/-- The array with two other bytes in the second integer. -/
def threeInts' : Ptr := fun k => if k = 5 ∨ k = 7 then 0xff else threeInts k

theorem hashInts_eq_iff_threeInts : hashInts threeInts 12 ≠ hashInts threeInts' 12 := by
  have hwindow : ∀ k < (12 : Int32).toInt.toNat, k < 4 ∨ 4 + 4 ≤ k →
      threeInts k = threeInts' k := by
    intro k _ hk
    exact (if_neg (by omega)).symm
  intro heq
  have hbyte := (hashInts_eq_iff hwindow).mp heq 5 (by decide)
  exact absurd hbyte (by decide)

end VirtualUSB

import Mathlib.Data.List.Basic
import Mathlib.Data.Int.ModEq
import Mathlib.Data.List.DropRight
import Mathlib.Tactic.Common
import Mathlib.Tactic.IntervalCases

/-!
# Reading the fields of a text

`sscanf` follows a format of blanks and conversions and gives the values it assigned; a conversion
that does not match ends it.  A conversion skips blanks, reads as many characters as belong to its
field and leaves the rest.

* `number_padded`: a number is read back from its digits, with any number of leading zeros.
* `sscanf_padded`, `sscanf_word`: a field that is followed by a blank is read back, and reading
  goes on behind it.
-/

namespace Scan

/-! ### Characters -/

/-- `isspace` of the C locale. -/
def isSpace (c : Char) : Bool :=
  c.toNat = 32 || 9 ≤ c.toNat && c.toNat ≤ 13

/-- The value of a digit, if it is one in the given base. -/
def digitValue (b : ℕ) (c : Char) : Option ℕ :=
  let v :=
    if 48 ≤ c.toNat && c.toNat ≤ 57 then c.toNat - 48
    else if 97 ≤ c.toNat && c.toNat ≤ 122 then c.toNat - 87
    else if 65 ≤ c.toNat && c.toNat ≤ 90 then c.toNat - 55
    else b
  if v < b then some v else none

/-- The character is a digit in the given base. -/
def isDigit (b : ℕ) (c : Char) : Bool :=
  (digitValue b c).isSome

/-- The number that a list of digits denotes. -/
def number (b : ℕ) (ds : List Char) : ℕ :=
  ds.foldl (fun n c => b * n + (digitValue b c).getD 0) 0

/-! ### Conversions -/

/-- A sign, and what follows it. -/
def sign : List Char → Bool × List Char
  | '-' :: cs => (true, cs)
  | '+' :: cs => (false, cs)
  | cs => (false, cs)

/-- A hexadecimal number may begin with `0x`. -/
def dropHexPrefix : List Char → List Char
  | '0' :: 'x' :: cs => cs
  | '0' :: 'X' :: cs => cs
  | cs => cs

/-- Read an integer, with the characters behind it. -/
def readNumber (b : ℕ) (cs : List Char) : Option (ℤ × List Char) :=
  let (negative, cs) := sign cs
  let cs := if b = 16 then dropHexPrefix cs else cs
  match cs.takeWhile (isDigit b) with
  | [] => none
  | d :: ds =>
    let n : ℤ := number b (d :: ds)
    some (if negative then -n else n, cs.dropWhile (isDigit b))

/-- What is stored of a number: for a signed conversion the number as a `long`, converted to
`int`; for an unsigned one the number as an `unsigned long`, converted to `unsigned`. -/
def store (signed : Bool) (n : ℤ) : ℤ :=
  if signed then (max (-2 ^ 63) (min n (2 ^ 63 - 1))).bmod (2 ^ 32)
  else (if n.natAbs < 2 ^ 64 then n else 2 ^ 64 - 1) % 2 ^ 32

/-- The conversions: `%Ns` is `str N`, `%d` is `num 10 true`, `%u` is `num 10 false` and `%x` is
`num 16 false`. -/
inductive Conv
  | str (width : ℕ)
  | num (base : ℕ) (signed : Bool)
  deriving DecidableEq, Repr

/-- What a conversion assigns. -/
inductive Value
  | str (cs : List Char)
  | num (n : ℤ)
  deriving DecidableEq, Repr

/-- Read one field that begins here. -/
def Conv.read : Conv → List Char → Option (Value × List Char)
  | .str width, cs =>
    match (cs.take width).takeWhile fun c => !isSpace c with
    | [] => none
    | c :: word => some (.str (c :: word), cs.drop (word.length + 1))
  | .num base signed, cs => (readNumber base cs).map fun p => (.num (store signed p.1), p.2)

/-! ### Formats -/

/-- An element of a format: blanks, or a conversion. -/
inductive Directive
  | space
  | conv (c : Conv)
  deriving DecidableEq, Repr

def skipSpace (cs : List Char) : List Char :=
  cs.dropWhile isSpace

/-- The values that `sscanf` assigns.  Every conversion skips blanks first. -/
def sscanf : List Directive → List Char → List Value
  | [], _ => []
  | .space :: ds, cs => sscanf ds (skipSpace cs)
  | .conv c :: ds, cs =>
    match c.read (skipSpace cs) with
    | none => []
    | some (v, rest) => v :: sscanf ds rest

/-! ### Digits -/

/-- A digit has its value. -/
theorem digitValue_digitChar {b d : ℕ} (hb : b ≤ 16) (hd : d < b) :
    digitValue b d.digitChar = some d := by
  have hlt : d < 16 := by omega
  interval_cases d <;> simp [digitValue, Nat.digitChar] <;> omega

theorem isDigit_digitChar {b d : ℕ} (hb : b ≤ 16) (hd : d < b) :
    isDigit b d.digitChar = true := by
  rw [isDigit, digitValue_digitChar hb hd]
  rfl

/-- Other characters than digits and letters come first in the code. -/
theorem le_toNat_of_isDigit {b : ℕ} {c : Char} (h : isDigit b c = true) : 48 ≤ c.toNat := by
  by_contra hlt
  have hnone : digitValue b c = none := by
    have h₁ : (48 ≤ c.toNat && c.toNat ≤ 57) = false := by simp; omega
    have h₂ : (97 ≤ c.toNat && c.toNat ≤ 122) = false := by simp; omega
    have h₃ : (65 ≤ c.toNat && c.toNat ≤ 90) = false := by simp; omega
    simp [digitValue, h₁, h₂, h₃]
  rw [isDigit, hnone] at h
  cases h

/-- A digit is neither a blank nor a sign nor the `x` of a prefix. -/
theorem ne_of_isDigit {b : ℕ} {c : Char} (hb : b ≤ 16) (h : isDigit b c = true) :
    isSpace c = false ∧ c ≠ '-' ∧ c ≠ '+' ∧ c ≠ 'x' ∧ c ≠ 'X' := by
  have hle := le_toNat_of_isDigit h
  have hne : ∀ c' : Char, digitValue b c' = none → c ≠ c' := by
    rintro c' hnone rfl
    rw [isDigit, hnone] at h
    cases h
  refine ⟨?_, hne _ ?_, hne _ ?_, hne _ ?_, hne _ ?_⟩
  · simp [isSpace]
    omega
  · simp [digitValue]
  · simp [digitValue]
  · simp [digitValue]
    omega
  · simp [digitValue]
    omega

theorem number_append_singleton (b : ℕ) (ds : List Char) (c : Char) :
    number b (ds ++ [c]) = b * number b ds + (digitValue b c).getD 0 := by
  simp [number]

/-- All characters of a printed number are digits. -/
theorem isDigit_of_mem_toDigits {b n : ℕ} (hb' : 1 < b) (hb : b ≤ 16) :
    ∀ c ∈ Nat.toDigits b n, isDigit b c = true := by
  induction n using Nat.strongRecOn with
  | ind n ih =>
    rw [Nat.toDigits_eq_if hb']
    split_ifs with hlt
    · simpa using isDigit_digitChar hb hlt
    · have hlast : n % b < b := Nat.mod_lt _ (by omega)
      have hdiv : n / b < n := Nat.div_lt_self (by omega) hb'
      rw [List.forall_mem_append]
      exact ⟨ih (n / b) hdiv, by simpa using isDigit_digitChar hb hlast⟩

/-- A printed number denotes the number. -/
theorem number_toDigits {b n : ℕ} (hb' : 1 < b) (hb : b ≤ 16) :
    number b (Nat.toDigits b n) = n := by
  induction n using Nat.strongRecOn with
  | ind n ih =>
    rw [Nat.toDigits_eq_if hb']
    split_ifs with hlt
    · simp [number, digitValue_digitChar hb hlt]
    · have hlast : n % b < b := Nat.mod_lt _ (by omega)
      rw [number_append_singleton, ih (n / b) (Nat.div_lt_self (by omega) hb'),
        digitValue_digitChar hb hlast]
      exact Nat.div_add_mod n b

/-! ### Padded numbers -/

/-- A number printed with at least `width` digits. -/
def padded (b width n : ℕ) : List Char :=
  (Nat.toDigits b n).leftpad width '0'

theorem isDigit_of_mem_padded {b : ℕ} (hb' : 1 < b) (hb : b ≤ 16) (width n : ℕ) :
    ∀ c ∈ padded b width n, isDigit b c = true := by
  intro c hc
  rcases List.mem_append.mp hc with hzero | hdigit
  · obtain ⟨-, rfl⟩ := List.mem_replicate.mp hzero
    exact isDigit_digitChar (d := 0) hb (by omega)
  · exact isDigit_of_mem_toDigits hb' hb c hdigit

theorem padded_ne_nil (b width n : ℕ) : padded b width n ≠ [] := by
  simp [padded, List.leftpad]

/-- **A number is read back from its digits**, with any number of leading zeros. -/
theorem number_padded {b : ℕ} (hb' : 1 < b) (hb : b ≤ 16) (width n : ℕ) :
    number b (padded b width n) = n := by
  have hzeros : ∀ (k : ℕ), (List.replicate k '0').foldl
      (fun n c => b * n + (digitValue b c).getD 0) 0 = 0 := by
    intro k
    have hzero : digitValue b '0' = some 0 := digitValue_digitChar (d := 0) hb (by omega)
    induction k with
    | zero => rfl
    | succ k ih => simpa [List.replicate_succ, hzero] using ih
  rw [padded, List.leftpad, number, List.foldl_append, hzeros]
  exact number_toDigits hb' hb

theorem store_of_lt {signed : Bool} {n : ℕ} (h : n < 2 ^ 31) : store signed n = n := by
  cases signed with
  | true =>
    have hmin : max (-2 ^ 63) (min (n : ℤ) (2 ^ 63 - 1)) = n := by omega
    rw [store, if_pos rfl, hmin]
    exact Int.bmod_eq_of_le (by omega) (by omega)
  | false =>
    rw [store, if_neg (by simp), if_pos (by simp; omega)]
    omega

/-! ### Fields -/

/-- A field ends here: at the end of the text, or at a blank. -/
def Ends : List Char → Prop
  | [] => True
  | c :: _ => isSpace c = true

/-- No field goes on behind its end. -/
theorem Ends.takeWhile_eq_nil {p : Char → Bool} {rest : List Char} (h : Ends rest)
    (hp : ∀ c, isSpace c = true → p c = false) : rest.takeWhile p = [] := by
  cases rest with
  | nil => rfl
  | cons c cs => rw [List.takeWhile_cons_of_neg (by simp [hp c h])]

theorem Ends.take {rest : List Char} (h : Ends rest) (n : ℕ) : Ends (rest.take n) := by
  cases rest with
  | nil => simpa using h
  | cons c cs =>
    cases n with
    | zero => trivial
    | succ n => exact h

theorem isDigit_eq_false_of_isSpace {b : ℕ} (hb : b ≤ 16) {c : Char} (h : isSpace c = true) :
    isDigit b c = false := by
  by_contra hdigit
  rw [(ne_of_isDigit hb (by simpa using hdigit)).1] at h
  cases h

/-- What begins with a digit has no sign. -/
theorem sign_cons_of_isDigit {b : ℕ} (hb : b ≤ 16) {c : Char} (h : isDigit b c = true)
    (cs : List Char) : sign (c :: cs) = (false, c :: cs) := by
  obtain ⟨-, hminus, hplus, -, -⟩ := ne_of_isDigit hb h
  unfold sign
  split
  · rename_i heq
    exact absurd (List.cons.inj heq).1 hminus
  · rename_i heq
    exact absurd (List.cons.inj heq).1 hplus
  · rfl

/-- Digits have no prefix. -/
theorem dropHexPrefix_of_isDigit {b : ℕ} (hb : b ≤ 16) {ds rest : List Char}
    (h : ∀ c ∈ ds, isDigit b c = true) (hends : Ends rest) (hne : ds ≠ []) :
    dropHexPrefix (ds ++ rest) = ds ++ rest := by
  have hsecond : ∀ c cs c', ds ++ rest = c :: c' :: cs →
      isDigit b c' = true ∨ isSpace c' = true := by
    intro c cs c' heq
    match ds, hne with
    | [d], _ =>
      rw [List.singleton_append, List.cons.injEq] at heq
      rw [heq.2] at hends
      exact .inr hends
    | d :: d' :: ds', _ =>
      rw [List.cons_append, List.cons_append, List.cons.injEq, List.cons.injEq] at heq
      exact .inl (h c' (by simp [heq.2.1]))
  have hx : ∀ c', isDigit b c' = true ∨ isSpace c' = true → c' ≠ 'x' ∧ c' ≠ 'X' := by
    rintro c' (hdigit | hspace)
    · exact (ne_of_isDigit hb hdigit).2.2.2
    · constructor <;> rintro rfl <;> cases hspace
  unfold dropHexPrefix
  split
  · rename_i heq
    exact absurd rfl (hx _ (hsecond _ _ _ heq)).1
  · rename_i heq
    exact absurd rfl (hx _ (hsecond _ _ _ heq)).2
  · rfl

/-- A number that is followed by the end of its field is read back, up to this end. -/
theorem readNumber_padded {b : ℕ} (hb' : 1 < b) (hb : b ≤ 16) (width n : ℕ) {rest : List Char}
    (hends : Ends rest) : readNumber b (padded b width n ++ rest) = some ((n : ℤ), rest) := by
  have hdigits := isDigit_of_mem_padded hb' hb width n
  have hpre := dropHexPrefix_of_isDigit hb hdigits hends (padded_ne_nil b width n)
  have hrest : rest.takeWhile (isDigit b) = [] :=
    hends.takeWhile_eq_nil fun c => isDigit_eq_false_of_isSpace hb
  have htake : (padded b width n ++ rest).takeWhile (isDigit b) = padded b width n := by
    rw [List.takeWhile_append_of_pos hdigits, hrest, List.append_nil]
  have hdrop : (padded b width n ++ rest).dropWhile (isDigit b) = rest := by
    have hall := List.takeWhile_append_dropWhile (p := isDigit b) (l := padded b width n ++ rest)
    rw [htake] at hall
    exact List.append_cancel_left hall
  have hnumber := number_padded hb' hb width n
  have hsign : sign (padded b width n ++ rest) = (false, padded b width n ++ rest) := by
    cases hds : padded b width n with
    | nil => exact absurd hds (padded_ne_nil b width n)
    | cons d ds => exact sign_cons_of_isDigit hb (hdigits d (by simp [hds])) _
  rw [readNumber, hsign]
  dsimp only
  rw [hpre, ite_self, htake, hdrop]
  cases hds : padded b width n with
  | nil => exact absurd hds (padded_ne_nil b width n)
  | cons d ds =>
    rw [hds] at hnumber
    simp [hnumber]

/-! ### Reading a printed text -/

theorem skipSpace_of_forall {sep : List Char} (h : ∀ c ∈ sep, isSpace c = true) (cs : List Char) :
    skipSpace (sep ++ cs) = skipSpace cs :=
  List.dropWhile_append_of_pos h

theorem skipSpace_cons_of_not {c : Char} (h : isSpace c = false) (cs : List Char) :
    skipSpace (c :: cs) = c :: cs :=
  List.dropWhile_cons_of_neg (by simp [h])

@[simp] theorem skipSpace_skipSpace (cs : List Char) : skipSpace (skipSpace cs) = skipSpace cs :=
  List.dropWhile_idempotent _ _

/-- Blanks in front of a text are not seen. -/
theorem sscanf_skipSpace (ds : List Directive) (cs : List Char) :
    sscanf ds (skipSpace cs) = sscanf ds cs := by
  cases ds with
  | nil => rfl
  | cons d ds => cases d <;> rw [sscanf, sscanf, skipSpace_skipSpace]

/-- Blanks in a format are not needed: the next conversion skips them as well. -/
@[simp] theorem sscanf_space (ds : List Directive) (cs : List Char) :
    sscanf (.space :: ds) cs = sscanf ds cs :=
  sscanf_skipSpace ds cs

theorem sscanf_blanks (sep : List Char) (h : ∀ c ∈ sep, isSpace c = true) (ds : List Directive)
    (cs : List Char) : sscanf ds (sep ++ cs) = sscanf ds cs := by
  rw [← sscanf_skipSpace, skipSpace_of_forall h, sscanf_skipSpace]

theorem sscanf_cons_of_isSpace {c : Char} (h : isSpace c = true) (ds : List Directive)
    (cs : List Char) : sscanf ds (c :: cs) = sscanf ds cs :=
  sscanf_blanks [c] (by simpa using h) ds cs

theorem skipSpace_padded {b : ℕ} (hb' : 1 < b) (hb : b ≤ 16) (width n : ℕ) (rest : List Char) :
    skipSpace (padded b width n ++ rest) = padded b width n ++ rest := by
  cases hds : padded b width n with
  | nil => exact absurd hds (padded_ne_nil b width n)
  | cons c cs =>
    have hdigit := isDigit_of_mem_padded hb' hb width n c (by simp [hds])
    exact skipSpace_cons_of_not (ne_of_isDigit hb hdigit).1 _

/-- **A number is read back**, and reading goes on behind it. -/
theorem sscanf_padded {b : ℕ} (hb' : 1 < b) (hb : b ≤ 16) (signed : Bool) (width n : ℕ)
    (ds : List Directive) {rest : List Char} (hends : Ends rest) :
    sscanf (.conv (.num b signed) :: ds) (padded b width n ++ rest)
      = .num (store signed n) :: sscanf ds rest := by
  rw [sscanf, skipSpace_padded hb' hb, Conv.read, readNumber_padded hb' hb width n hends]
  rfl

/-- **A word is read back** as far as the width of the conversion allows, and reading goes on
behind that. -/
theorem sscanf_word {width : ℕ} (hwidth : 0 < width) {word : List Char} (hne : word ≠ [])
    (hword : ∀ c ∈ word, isSpace c = false) (ds : List Directive) {rest : List Char}
    (hends : Ends rest) :
    sscanf (.conv (.str width) :: ds) (word ++ rest)
      = .str (word.take width) :: sscanf ds (word.drop width ++ rest) := by
  have hskip : skipSpace (word ++ rest) = word ++ rest := by
    cases word with
    | nil => exact absurd rfl hne
    | cons c cs => exact skipSpace_cons_of_not (hword c (by simp)) _
  have htake : ((word ++ rest).take width).takeWhile (fun c => !isSpace c) = word.take width := by
    rw [List.take_append, List.takeWhile_append_of_pos, (hends.take _).takeWhile_eq_nil,
      List.append_nil]
    · intro c hc
      rw [hc, Bool.not_true]
    · intro c hc
      rw [hword c (List.mem_of_mem_take hc), Bool.not_false]
  have hdrop : (word ++ rest).drop (word.take width).length = word.drop width ++ rest := by
    rcases Nat.le_total width word.length with hle | hle
    · rw [List.length_take, Nat.min_eq_left hle, List.drop_append_of_le_length hle]
    · rw [List.take_of_length_le hle, List.drop_left, List.drop_of_length_le hle, List.nil_append]
  rw [sscanf, hskip, Conv.read, htake]
  cases hcs : word.take width with
  | nil =>
    rw [List.take_eq_nil_iff] at hcs
    rcases hcs with hzero | hnil
    · omega
    · exact absurd hnil hne
  | cons c cs =>
    rw [hcs] at hdrop
    dsimp only
    rw [← hdrop]
    rfl

end Scan

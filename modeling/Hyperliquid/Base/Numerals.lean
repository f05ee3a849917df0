import Hyperliquid.Base.Double
import Mathlib.Data.List.DropRight
import Mathlib.Data.List.TakeWhile
import Mathlib.Tactic.FieldSimp
import Mathlib.Tactic.IntervalCases
import Mathlib.Tactic.Ring

/-!
# Decimal numerals

The values of digit strings and of numerals with a point, and the numerals that have no
superfluous characters.
-/

namespace Hyperliquid.Base.Numerals

open Double

/-- A digit is no point. -/
theorem ne_point_of_isDigit {c : Char} (h : c.isDigit = true) : c ≠ '.' := by
  rintro rfl
  exact absurd h (by decide)

section

variable {whole fraction : List Char}

/-- The whole part is what stands before the point. -/
theorem takeWhile_point (hwhole : ∀ c ∈ whole, c.isDigit = true) (rest : List Char) :
    (whole ++ '.' :: rest).takeWhile (· ≠ '.') = whole ∧
      (whole ++ '.' :: rest).dropWhile (· ≠ '.') = '.' :: rest := by
  have hpoint : ∀ c ∈ whole, decide (c ≠ '.') = true :=
    fun c hc ↦ decide_eq_true (ne_point_of_isDigit (hwhole c hc))
  rw [List.takeWhile_append_of_pos hpoint, List.dropWhile_append_of_pos hpoint]
  exact ⟨List.append_nil whole, rfl⟩

/-- A numeral without a point is its whole part. -/
theorem takeWhile_whole (hwhole : ∀ c ∈ whole, c.isDigit = true) :
    whole.takeWhile (· ≠ '.') = whole ∧ whole.dropWhile (· ≠ '.') = [] := by
  have hpoint : ∀ c ∈ whole, decide (c ≠ '.') = true :=
    fun c hc ↦ decide_eq_true (ne_point_of_isDigit (hwhole c hc))
  exact ⟨List.takeWhile_eq_self_iff.mpr hpoint, List.dropWhile_eq_nil_iff.mpr hpoint⟩

end

/-! ## Values -/

private theorem digitsValue_eq (digits : List Char) :
    digitsValue digits = Nat.ofDigitChars 10 digits 0 := by
  simp only [digitsValue, Nat.ofDigitChars_eq_foldl, Nat.mul_comm 10]

private theorem digitsValue_append (digits rest : List Char) :
    digitsValue (digits ++ rest) =
      10 ^ rest.length * digitsValue digits + digitsValue rest := by
  simp only [digitsValue_eq, Nat.ofDigitChars_append]
  exact Nat.ofDigitChars_eq_ofDigitChars_zero

private theorem digitsValue_toDigits (n : ℕ) : digitsValue (Nat.toDigits 10 n) = n := by
  rw [digitsValue_eq, Nat.ofDigitChars_ten_toDigits]

private theorem digitsValue_zeros (n : ℕ) : digitsValue (List.replicate n '0') = 0 := by
  rw [digitsValue_eq, Nat.ofDigitChars_replicate_zero, Nat.mul_zero]

/-- Zeros in front count for nothing. -/
theorem digitsValue_leftpad (width : ℕ) (digits : List Char) :
    digitsValue (digits.leftpad width '0') = digitsValue digits := by
  rw [List.leftpad, digitsValue_append, digitsValue_zeros, Nat.mul_zero, Nat.zero_add]

/-- Digits that are filled up with zeros are digits. -/
theorem isDigit_of_mem_leftpad {n : ℕ} {digits : List Char} {c : Char}
    (hdigits : ∀ c ∈ digits, c.isDigit = true) (h : c ∈ digits.leftpad n '0') :
    c.isDigit = true := by
  rcases List.mem_append.mp h with hzero | hdigit
  · rw [List.eq_of_mem_replicate hzero]
    rfl
  · exact hdigits c hdigit

/-- The value of a numeral with a point. -/
theorem unsignedValue_point {whole : List Char} (hwhole : ∀ c ∈ whole, c.isDigit = true)
    (fraction : List Char) :
    unsignedValue (whole ++ '.' :: fraction) =
      digitsValue (whole ++ fraction) / 10 ^ fraction.length := by
  obtain ⟨htake, hdrop⟩ := takeWhile_point hwhole fraction
  unfold unsignedValue
  rw [htake, hdrop]
  rfl

private theorem unsignedValue_whole {whole : List Char} (hwhole : ∀ c ∈ whole, c.isDigit = true) :
    unsignedValue whole = digitsValue whole := by
  obtain ⟨htake, hdrop⟩ := takeWhile_whole hwhole
  unfold unsignedValue
  rw [htake, hdrop]
  simp

/-- Zeros at the end of the fraction count for nothing. -/
theorem unsignedValue_zeros {whole : List Char} (hwhole : ∀ c ∈ whole, c.isDigit = true)
    (fraction : List Char) (zeros : ℕ) :
    unsignedValue (whole ++ '.' :: (fraction ++ List.replicate zeros '0')) =
      unsignedValue (whole ++ '.' :: fraction) := by
  rw [unsignedValue_point hwhole, unsignedValue_point hwhole, ← List.append_assoc,
    digitsValue_append, digitsValue_zeros, List.length_append, List.length_replicate]
  push_cast
  field_simp
  ring

/-- A point without a fraction counts for nothing. -/
theorem unsignedValue_bare_point {whole : List Char} (hwhole : ∀ c ∈ whole, c.isDigit = true) :
    unsignedValue (whole ++ ['.']) = unsignedValue whole := by
  rw [unsignedValue_point hwhole, unsignedValue_whole hwhole]
  simp

/-- The digits of a remainder fit its width. -/
theorem length_leftpad_toDigits {n width : ℕ} (hwidth : 0 < width) (h : n < 10 ^ width) :
    ((Nat.toDigits 10 n).leftpad width '0').length = width := by
  have hle : (Nat.toDigits 10 n).length ≤ width :=
    (Nat.length_toDigits_le_iff (by omega) hwidth).mpr h
  rw [List.length_leftpad, Nat.max_eq_left hle]

/-- The fixed format denotes its number of hundred-millionths. -/
theorem unsignedValue_fixedDigits (units : ℕ) :
    unsignedValue (fixedDigits units) = units / 10 ^ 8 := by
  have hdigits : ∀ c ∈ Nat.toDigits 10 (units / 10 ^ 8), c.isDigit = true := fun c hc ↦
    Nat.isDigit_of_mem_toDigits (by omega) (by omega) hc
  have hmod : units % 10 ^ 8 < 10 ^ 8 := Nat.mod_lt units (by omega)
  have hlength := length_leftpad_toDigits (by omega) hmod
  rw [fixedDigits, unsignedValue_point hdigits, digitsValue_append, hlength, digitsValue_toDigits,
    digitsValue_leftpad, digitsValue_toDigits, Nat.div_add_mod]

/-! ## Canonical numerals -/

/-- A digit other than zero first, unless there is one digit; a last decimal other than zero. -/
def isCanonicalUnsigned (text : List Char) : Bool :=
  let whole := text.takeWhile (· ≠ '.')
  let rest := text.dropWhile (· ≠ '.')
  whole.all Char.isDigit && (whole = ['0'] || whole.head?.any (· ≠ '0')) &&
    (rest.isEmpty || (rest.drop 1).all Char.isDigit && (rest.drop 1).getLast?.any (· ≠ '0'))

/-- The numerals `-?(0|[1-9][0-9]*)(\\.[0-9]*[1-9])?` other than minus zero. -/
def isCanonical : List Char → Bool
  | '-' :: text => isCanonicalUnsigned text && text ≠ ['0']
  | text => isCanonicalUnsigned text

example : isCanonical "-0.5".toList = true ∧ isCanonical "-0".toList = false := by decide

/-- Digits do not start with a zero, except for zero. -/
theorem head_toDigits {n : ℕ} (h : n ≠ 0) : (Nat.toDigits 10 n).head?.any (· ≠ '0') = true := by
  induction n using Nat.strongRecOn with
  | ind n ih =>
    by_cases hn : n < 10
    · rw [Nat.toDigits_of_lt_base hn]
      interval_cases n
      · exact absurd rfl h
      all_goals rfl
    · -- the digits of the quotient come first
      rw [Nat.toDigits_of_base_le (by omega) (by omega),
        List.head?_append_of_ne_nil _ Nat.toDigits_ne_nil]
      exact ih (n / 10) (by omega) (by omega)

/-- A numeral without the zeros at the end of its fraction, and without a bare point. -/
def trimmed (whole fraction : List Char) : List Char :=
  if fraction.rdropWhile (· = '0') = [] then whole
  else whole ++ '.' :: fraction.rdropWhile (· = '0')

section

variable {whole fraction : List Char}

/-- What is dropped at the end is zeros. -/
theorem rdropWhile_append_zeros (fraction : List Char) :
    ∃ zeros, fraction.rdropWhile (· = '0') ++ List.replicate zeros '0' = fraction := by
  have hzeros : fraction.rtakeWhile (· = '0') =
      List.replicate (fraction.rtakeWhile (· = '0')).length '0' := by
    apply List.eq_replicate_of_mem
    intro c hc
    simpa using List.mem_rtakeWhile_imp hc
  refine ⟨(fraction.rtakeWhile (· = '0')).length, ?_⟩
  rw [← hzeros, List.rdropWhile_append_rtakeWhile]

private theorem unsignedValue_trimmed (hwhole : ∀ c ∈ whole, c.isDigit = true) :
    unsignedValue (trimmed whole fraction) = unsignedValue (whole ++ '.' :: fraction) := by
  obtain ⟨zeros, hfraction⟩ := rdropWhile_append_zeros fraction
  have hvalue := unsignedValue_zeros hwhole (fraction.rdropWhile (· = '0')) zeros
  rw [hfraction] at hvalue
  rw [hvalue, trimmed]
  split
  · next hnil => rw [hnil, unsignedValue_bare_point hwhole]
  · rfl

private theorem isCanonicalUnsigned_trimmed (hwhole : ∀ c ∈ whole, c.isDigit = true)
    (hhead : whole = ['0'] ∨ whole.head?.any (· ≠ '0') = true)
    (hfraction : ∀ c ∈ fraction, c.isDigit = true) :
    isCanonicalUnsigned (trimmed whole fraction) = true := by
  unfold trimmed isCanonicalUnsigned
  split
  · obtain ⟨htake, hdrop⟩ := takeWhile_whole hwhole
    rw [htake, hdrop]
    simpa using ⟨hwhole, by simpa using hhead⟩
  · next hne =>
    obtain ⟨htake, hdrop⟩ := takeWhile_point hwhole (fraction.rdropWhile (· = '0'))
    have hdigits : ∀ c ∈ fraction.rdropWhile (· = '0'), c.isDigit = true :=
      fun c hc ↦ hfraction c ((List.rdropWhile_prefix _ _).subset hc)
    have hlast : (fraction.rdropWhile (· = '0')).getLast hne ≠ '0' := by
      simpa using List.rdropWhile_last_not (fun c : Char ↦ decide (c = '0')) fraction hne
    rw [htake, hdrop]
    simp only [Bool.and_eq_true, Bool.or_eq_true, List.all_eq_true, List.drop_one, List.tail_cons]
    refine ⟨⟨hwhole, by simpa using hhead⟩, Or.inr ⟨hdigits, ?_⟩⟩
    rw [List.getLast?_eq_getLast_of_ne_nil hne]
    simpa using hlast

end

/-- The numeral without superfluous characters for a number of hundred-millionths. -/
def trimmedDigits (units : ℕ) : List Char :=
  trimmed (Nat.toDigits 10 (units / 10 ^ 8)) ((Nat.toDigits 10 (units % 10 ^ 8)).leftpad 8 '0')

/-- The digits of a number are digits. -/
theorem isDigit_of_mem_toDigits (n : ℕ) : ∀ c ∈ Nat.toDigits 10 n, c.isDigit = true :=
  fun _ hc ↦ Nat.isDigit_of_mem_toDigits (by omega) (by omega) hc

private theorem unsignedValue_trimmedDigits (units : ℕ) :
    unsignedValue (trimmedDigits units) = units / 10 ^ 8 := by
  rw [trimmedDigits, unsignedValue_trimmed (isDigit_of_mem_toDigits _)]
  exact unsignedValue_fixedDigits units

private theorem isCanonicalUnsigned_trimmedDigits (units : ℕ) :
    isCanonicalUnsigned (trimmedDigits units) = true := by
  apply isCanonicalUnsigned_trimmed (isDigit_of_mem_toDigits _)
  · by_cases h : units / 10 ^ 8 = 0
    · rw [h]
      exact Or.inl rfl
    · exact Or.inr (head_toDigits h)
  · exact fun c hc ↦ isDigit_of_mem_leftpad (isDigit_of_mem_toDigits _) hc

/-! ## Signs -/

/-- A sign in front of a numeral. -/
def signed (negative : Bool) (text : List Char) : List Char :=
  (if negative then ['-'] else []) ++ text

private theorem stodRat_signed (negative : Bool) {text : List Char} (h : text.head? ≠ some '-') :
    stodRat (String.ofList (signed negative text)) =
      if negative then -unsignedValue text else unsignedValue text := by
  rw [stodRat, String.toList_ofList]
  cases negative with
  | true => rfl
  | false =>
    cases text with
    | nil => rfl
    | cons c text =>
      have hc : c ≠ '-' := fun hc ↦ h (congrArg some hc)
      simp [signed, hc]

private theorem isCanonical_signed (negative : Bool) {text : List Char}
    (h : isCanonicalUnsigned text = true) (hzero : negative = true → text ≠ ['0']) :
    isCanonical (signed negative text) = true := by
  cases negative with
  | true => exact Bool.and_eq_true_iff.mpr ⟨h, decide_eq_true (hzero rfl)⟩
  | false =>
    change isCanonical text = true
    unfold isCanonical
    split
    · exact absurd h (by simp [isCanonicalUnsigned])
    · exact h

/-- Digits do not start with a sign. -/
theorem head_append_ne_minus {digits : List Char} (hne : digits ≠ [])
    (hdigits : ∀ c ∈ digits, c.isDigit = true) (rest : List Char) :
    (digits ++ rest).head? ≠ some '-' := by
  rw [List.head?_append_of_ne_nil _ hne]
  intro h
  exact absurd (hdigits _ (List.mem_of_head? h)) (by decide)

/-- The fixed format has no sign of its own. -/
theorem head_fixedDigits_ne_minus (units : ℕ) : (fixedDigits units).head? ≠ some '-' :=
  head_append_ne_minus Nat.toDigits_ne_nil (isDigit_of_mem_toDigits _) _

private theorem head_trimmedDigits_ne_minus (units : ℕ) :
    (trimmedDigits units).head? ≠ some '-' := by
  unfold trimmedDigits trimmed
  split
  · rw [← List.append_nil (Nat.toDigits 10 _)]
    exact head_append_ne_minus Nat.toDigits_ne_nil (isDigit_of_mem_toDigits _) _
  · exact head_append_ne_minus Nat.toDigits_ne_nil (isDigit_of_mem_toDigits _) _

/-- The canonical numeral of a number of hundred-millionths. -/
def canonical (units : ℤ) : List Char := signed (decide (units < 0)) (trimmedDigits units.natAbs)

/-- The canonical numeral has the canonical form. -/
theorem isCanonical_canonical (units : ℤ) : isCanonical (canonical units) = true := by
  apply isCanonical_signed _ (isCanonicalUnsigned_trimmedDigits _)
  -- only zero has the digits of zero
  intro hneg hzero
  have hvalue := unsignedValue_trimmedDigits units.natAbs
  have hdigits : unsignedValue ['0'] = 0 := by decide +kernel
  rw [hzero, hdigits, eq_comm, div_eq_zero_iff, or_iff_left (by norm_num)] at hvalue
  have hunits : units.natAbs = 0 := by exact_mod_cast hvalue
  have hneg := of_decide_eq_true hneg
  omega

/-- The canonical numeral is read back. -/
theorem stodRat_canonical (units : ℤ) :
    stodRat (String.ofList (canonical units)) = units / 10 ^ 8 := by
  rw [canonical, stodRat_signed _ (head_trimmedDigits_ne_minus _), unsignedValue_trimmedDigits,
    Nat.cast_natAbs]
  by_cases h : units < 0
  · rw [if_pos (decide_eq_true h), abs_of_neg h, Int.cast_neg, neg_div, neg_neg]
  · rw [if_neg (by simpa using h), abs_of_nonneg (not_lt.mp h)]

/-! ## The nearest multiple -/

/-- The stream rounds by at most half a step. -/
theorem abs_sub_roundEven_le {q : ℚ} (h : 0 ≤ q) : |q - roundEven q| ≤ 1 / 2 := by
  have hfloor := Nat.floor_le h
  have hlt := Nat.lt_floor_add_one q
  unfold roundEven
  dsimp only
  split_ifs <;> push_cast <;> rw [abs_le] <;> constructor <;> linarith

/-- A natural number less than a half away is the nearest one. -/
theorem roundEven_eq {q : ℚ} {n : ℕ} (hq : 0 ≤ q) (h : |q - n| < 1 / 2) : roundEven q = n := by
  have hnearest := abs_sub_roundEven_le hq
  have htriangle := abs_sub_le (roundEven q : ℚ) q n
  rw [abs_sub_comm (roundEven q : ℚ) q] at htriangle
  have hlt : |(roundEven q : ℤ) - n| < 1 := by
    have hcast : |(roundEven q : ℚ) - n| < 1 := by linarith
    exact_mod_cast hcast
  have heq := Int.abs_lt_one_iff.mp hlt
  omega

/-- The number of hundred-millionths that the fixed format prints. -/
def fixedUnits (q : ℚ) : ℤ :=
  if q < 0 then -(roundEven (|q| * 10 ^ 8) : ℤ) else roundEven (|q| * 10 ^ 8)

/-- The sign does not change the digits. -/
theorem natAbs_fixedUnits (q : ℚ) : (fixedUnits q).natAbs = roundEven (|q| * 10 ^ 8) := by
  unfold fixedUnits
  split <;> omega

/-- The fixed format is read as the number that it prints. -/
theorem stodRat_fixedRat (q : ℚ) : stodRat (fixedRat q) = fixedUnits q / 10 ^ 8 := by
  have hsigned := stodRat_signed (decide (q < 0))
    (head_fixedDigits_ne_minus (roundEven (|q| * 10 ^ 8)))
  rw [unsignedValue_fixedDigits] at hsigned
  unfold fixedUnits
  by_cases h : q < 0
  · simpa [signed, fixedRat, h, neg_div] using hsigned
  · simpa [signed, fixedRat, h] using hsigned

/-- The fixed format is off by at most half a unit. -/
theorem abs_sub_fixedUnits_le (q : ℚ) : |q * 10 ^ 8 - fixedUnits q| ≤ 1 / 2 := by
  have hround := abs_sub_roundEven_le (mul_nonneg (abs_nonneg q) (by norm_num : (0 : ℚ) ≤ 10 ^ 8))
  unfold fixedUnits
  by_cases h : q < 0
  · have hneg : q * 10 ^ 8 - (-(roundEven (|q| * 10 ^ 8) : ℤ) : ℤ) =
        -(|q| * 10 ^ 8 - roundEven (|q| * 10 ^ 8)) := by
      rw [abs_of_neg h]
      push_cast
      ring
    rw [if_pos h, hneg, abs_neg]
    exact hround
  · rw [if_neg h]
    rw [abs_of_nonneg (not_lt.mp h)] at hround ⊢
    exact hround

end Hyperliquid.Base.Numerals

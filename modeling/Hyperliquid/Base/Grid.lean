import Mathlib.Algebra.Group.Subgroup.ZPowers.Basic
import Mathlib.Algebra.Order.Floor.Ring
import Mathlib.Data.Int.Log
import Mathlib.Tactic.Linarith

/-!
# Grids of a base

The integer multiples of a power of a base, over any ordered field. Grids are nested, and
rounding to a grid by any rule that keeps the integers fixes exactly its points.
-/

namespace Hyperliquid.Base

variable {K : Type*} [Field K] [LinearOrder K] [IsStrictOrderedRing K]

/-- The integer multiples of `b ^ e`. -/
def Grid (b : ℕ) (e : ℤ) : AddSubgroup K := AddSubgroup.zmultiples ((b : K) ^ e)

namespace Grid

variable {b : ℕ} {m n : ℤ} {q : K}

omit [LinearOrder K] [IsStrictOrderedRing K] in
/-- A point is a multiple of the step. -/
theorem mem_iff : q ∈ Grid b m ↔ ∃ k : ℤ, k * (b : K) ^ m = q := by
  simp only [Grid, AddSubgroup.mem_zmultiples_iff, zsmul_eq_mul]

section

variable (hb : 1 < b)
include hb

/-- A step is positive. -/
theorem pow_pos (e : ℤ) : (0 : K) < (b : K) ^ e :=
  zpow_pos (by exact_mod_cast Nat.lt_trans Nat.one_pos hb) e

/-- A power of the base is on the grid of each smaller one. -/
theorem pow_mem (h : m ≤ n) : (b : K) ^ n ∈ Grid b m := by
  have hne : (b : K) ≠ 0 := by exact_mod_cast (by omega : b ≠ 0)
  have hcast : ((n - m).toNat : ℤ) = n - m := Int.toNat_of_nonneg (by omega)
  rw [mem_iff]
  refine ⟨(b : ℤ) ^ (n - m).toNat, ?_⟩
  rw [Int.cast_pow, Int.cast_natCast, ← zpow_natCast, hcast, ← zpow_add₀ hne, Int.sub_add_cancel]

/-- Grids are nested, the finer one around the coarser one. -/
theorem anti (h : m ≤ n) : (Grid b n : AddSubgroup K) ≤ Grid b m :=
  AddSubgroup.zmultiples_le_of_mem (pow_mem hb h)

/-- The coarser of two grids is what they share. -/
theorem mem_max_iff : q ∈ Grid b (max m n) ↔ q ∈ Grid b m ∧ q ∈ Grid b n := by
  constructor
  · intro h
    exact ⟨anti hb (le_max_left m n) h, anti hb (le_max_right m n) h⟩
  · rintro ⟨hm, hn⟩
    rcases le_total m n with hle | hle
    · rw [max_eq_right hle]
      exact hn
    · rw [max_eq_left hle]
      exact hm

/-- The finer of two grids is what they make up. -/
theorem mem_min_iff : q ∈ Grid b (min m n) ↔ q ∈ Grid b m ∨ q ∈ Grid b n := by
  constructor
  · intro h
    rcases min_choice m n with heq | heq
    · rw [heq] at h
      exact Or.inl h
    · rw [heq] at h
      exact Or.inr h
  · rintro (h | h)
    · exact anti hb (min_le_left m n) h
    · exact anti hb (min_le_right m n) h

/-- A power of the base is on no coarser grid. -/
theorem pow_mem_iff : (b : K) ^ n ∈ Grid b m ↔ m ≤ n := by
  constructor
  · intro h
    obtain ⟨k, hk⟩ := mem_iff.mp h
    have hpos : (0 : K) < k := by
      by_contra hle
      have hneg := mul_nonpos_of_nonpos_of_nonneg (not_lt.mp hle) (pow_pos (K := K) hb m).le
      rw [hk] at hneg
      exact absurd (pow_pos hb n) (not_lt.mpr hneg)
    have hpos : 0 < k := by exact_mod_cast hpos
    have hone : (1 : K) ≤ k := by exact_mod_cast hpos
    have hle : (b : K) ^ m ≤ (b : K) ^ n := by
      rw [← hk]
      exact le_mul_of_one_le_left (pow_pos hb m).le hone
    exact (zpow_le_zpow_iff_right₀ (by exact_mod_cast hb)).mp hle
  · exact pow_mem hb

end

/-- A point is tested at the multiple below it. -/
theorem mem_iff_floor [FloorRing K] : q ∈ Grid b m ↔ ⌊q / (b : K) ^ m⌋ * (b : K) ^ m = q := by
  rw [mem_iff]
  constructor
  · rintro ⟨k, rfl⟩
    by_cases hzero : (b : K) ^ m = 0
    · rw [hzero, mul_zero, mul_zero]
    · rw [mul_div_cancel_right₀ _ hzero, Int.floor_intCast]
  · intro h
    exact ⟨_, h⟩

instance [FloorRing K] : Decidable (q ∈ Grid b m) := decidable_of_iff _ mem_iff_floor.symm

omit [LinearOrder K] [IsStrictOrderedRing K] in
/-- The grid of one is the integers. -/
theorem mem_zero_iff : q ∈ Grid b 0 ↔ ∃ k : ℤ, (k : K) = q := by
  simp only [mem_iff, zpow_zero, mul_one]

/-- Two points of a grid are a step apart. -/
theorem add_le_of_lt {p : K} (hb : 1 < b) (hp : p ∈ Grid b m) (hq : q ∈ Grid b m) (h : p < q) :
    p + (b : K) ^ m ≤ q := by
  obtain ⟨j, rfl⟩ := mem_iff.mp hp
  obtain ⟨k, rfl⟩ := mem_iff.mp hq
  have hlt : j < k := by exact_mod_cast lt_of_mul_lt_mul_right h (pow_pos hb m).le
  have hle : ((j + 1 : ℤ) : K) ≤ k := by exact_mod_cast hlt
  calc (j : K) * (b : K) ^ m + (b : K) ^ m = ((j + 1 : ℤ) : K) * (b : K) ^ m := by
        rw [Int.cast_add, Int.cast_one, add_mul, one_mul]
    _ ≤ k * (b : K) ^ m := mul_le_mul_of_nonneg_right hle (pow_pos hb m).le

end Grid

/-! ## Rounding to a grid -/

/-- The multiple of `scale` that a rule for the integers chooses. -/
def roundTo (round : K → ℤ) (scale q : K) : K := round (q / scale) * scale

namespace Grid

variable {b : ℕ} (hb : 1 < b) {round : K → ℤ} {s d : ℤ} {q : K}

omit [LinearOrder K] [IsStrictOrderedRing K] in
/-- What is rounded is on the grid. -/
theorem roundTo_mem : roundTo round ((b : K) ^ s) q ∈ Grid b s :=
  mem_iff.mpr ⟨_, rfl⟩

include hb

variable (hround : ∀ k : ℤ, round k = k)
include hround

/-- Rounding fixes the points of its grid and no other. -/
theorem roundTo_eq_self_iff : roundTo round ((b : K) ^ s) q = q ↔ q ∈ Grid b s := by
  constructor
  · intro h
    rw [← h]
    exact roundTo_mem
  · intro h
    obtain ⟨k, rfl⟩ := mem_iff.mp h
    rw [roundTo, mul_div_cancel_right₀ _ (pow_pos hb s).ne', hround]

/-- Rounding twice fixes the points of both grids. -/
theorem roundTo_roundTo_eq_self_iff :
    roundTo round ((b : K) ^ d) (roundTo round ((b : K) ^ s) q) = q ↔
      q ∈ Grid b s ∧ q ∈ Grid b d := by
  constructor
  · intro h
    have hd : q ∈ Grid b d := by
      rw [← h]
      exact roundTo_mem
    refine ⟨?_, hd⟩
    rcases le_total s d with hle | hle
    · exact anti hb hle hd
    · -- the first rounding lands on the second grid, which then keeps it
      have hfirst : roundTo round ((b : K) ^ s) q ∈ Grid b d := anti hb hle roundTo_mem
      rw [(roundTo_eq_self_iff hb hround).mpr hfirst] at h
      exact (roundTo_eq_self_iff hb hround).mp h
  · rintro ⟨hs, hd⟩
    rw [(roundTo_eq_self_iff hb hround).mpr hs]
    exact (roundTo_eq_self_iff hb hround).mpr hd

omit hround in
/-- A rule that keeps the order rounds in order. -/
theorem roundTo_mono (hmono : ∀ ⦃p q : K⦄, p ≤ q → round p ≤ round q) ⦃p q : K⦄ (h : p ≤ q) :
    roundTo round ((b : K) ^ s) p ≤ roundTo round ((b : K) ^ s) q := by
  have hle : ((round (p / (b : K) ^ s) : ℤ) : K) ≤ round (q / (b : K) ^ s) := by
    exact_mod_cast hmono (div_le_div_of_nonneg_right h (pow_pos hb s).le)
  exact mul_le_mul_of_nonneg_right hle (pow_pos hb s).le

/-- A point of the grid bounds what is rounded from above it. -/
theorem le_roundTo (hmono : ∀ ⦃p q : K⦄, p ≤ q → round p ≤ round q) {p : K} (hp : p ∈ Grid b s)
    (h : p ≤ q) :
    p ≤ roundTo round ((b : K) ^ s) q := by
  rw [← (roundTo_eq_self_iff hb hround).mpr hp]
  exact roundTo_mono hb hmono h

/-- A point of the grid bounds what is rounded from below it. -/
theorem roundTo_le (hmono : ∀ ⦃p q : K⦄, p ≤ q → round p ≤ round q) {p : K} (hp : p ∈ Grid b s)
    (h : q ≤ p) :
    roundTo round ((b : K) ^ s) q ≤ p := by
  rw [← (roundTo_eq_self_iff hb hround).mpr hp]
  exact roundTo_mono hb hmono h

/-- Rounding twice lands on the coarser grid. -/
theorem roundTo_roundTo_mem :
    roundTo round ((b : K) ^ d) (roundTo round ((b : K) ^ s) q) ∈ Grid b (max s d) := by
  rcases le_total s d with hle | hle
  · rw [max_eq_right hle]
    exact roundTo_mem
  · have hfirst : roundTo round ((b : K) ^ s) q ∈ Grid b d := anti hb hle roundTo_mem
    rw [max_eq_left hle, (roundTo_eq_self_iff hb hround).mpr hfirst]
    exact roundTo_mem

end Grid
end Hyperliquid.Base

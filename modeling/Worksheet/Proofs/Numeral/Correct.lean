import Worksheet.Proofs.Numeral.Significant

/-!
Correct rounding to significant digits. `RoundedTo` says what a rational number becomes, and nothing
of how that is worked out; `roundTo` gives just that (`roundedTo_roundTo`). What is rounded so is
off by a small part of itself, and keeps its sign.
-/

set_option autoImplicit false
set_option relaxedAutoImplicit false

namespace Worksheet.Numeral

/-- The whole number `n` is nearest to `r`, and even if there is another that is as near. -/
structure NearestEven (r : ℚ) (n : ℤ) : Prop where
  near : |r - n| ≤ 1 / 2
  even : |r - n| = 1 / 2 → Even n

/-- The number `q` is `r` to so many significant digits: it is the nearest multiple of the unit of
the last digit, a half going to the even one. -/
def RoundedTo (count : Nat) (r q : ℚ) : Prop :=
  ∃ x n : ℤ, 10 ^ x ≤ |r| ∧ |r| < 10 ^ (x + 1) ∧ NearestEven (r / 10 ^ (x + 1 - count)) n ∧
    q = n * 10 ^ (x + 1 - count)

private theorem NearestEven.neg {r : ℚ} {n : ℤ} (h : NearestEven r n) : NearestEven (-r) (-n) := by
  have same : |-r - (-n : ℤ)| = |r - n| := by
    rw [← abs_neg]
    push_cast
    ring_nf
  refine ⟨same ▸ h.near, fun tie => ?_⟩
  exact (h.even (same ▸ tie)).neg

theorem RoundedTo.neg {count : Nat} {r q : ℚ} (h : RoundedTo count r q) :
    RoundedTo count (-r) (-q) := by
  obtain ⟨x, n, low, high, nearest, rfl⟩ := h
  refine ⟨x, -n, by rwa [abs_neg], by rwa [abs_neg], ?_, by push_cast; ring⟩
  rw [neg_div]
  exact nearest.neg

private theorem roundDiv_even {a b : Nat} (hb : 0 < b)
    (tie : 2 * a = 2 * (roundDiv a b * b) + b ∨ 2 * (roundDiv a b * b) = 2 * a + b) :
    roundDiv a b % 2 = 0 := by
  have hr := Nat.mod_lt a hb
  have split := Nat.div_add_mod' a b
  have up : (a / b + 1) * b = a / b * b + b := Nat.succ_mul _ _
  unfold roundDiv at tie ⊢
  dsimp only at tie ⊢
  split at tie
  · omega
  · split at tie
    · omega
    · rw [if_neg ‹_›, if_neg ‹_›]
      omega

theorem nearestEven_roundDiv {a b : Nat} (hb : 0 < b) :
    NearestEven ((a : ℚ) / b) (roundDiv a b : ℤ) := by
  have hb' : (b : ℚ) ≠ 0 := by exact_mod_cast hb.ne'
  refine ⟨?_, fun tie => ?_⟩
  · rw [abs_sub_comm]
    exact abs_roundDiv_sub_le hb
  · have parity : roundDiv a b % 2 = 0 := by
      refine roundDiv_even hb ?_
      rcases eq_or_eq_neg_of_abs_eq tie with above | below
      · left
        field_simp at above
        push_cast at above
        have above' : (2 * a : ℚ) = 2 * (roundDiv a b * b) + b := by linarith
        exact_mod_cast above'
      · right
        field_simp at below
        push_cast at below
        have below' : (2 * (roundDiv a b * b) : ℚ) = 2 * a + b := by linarith
        exact_mod_cast below'
    exact (Int.even_coe_nat _).mpr (Nat.even_iff.mpr parity)

/-- A quotient is rounded to the digits that it should have. A carry into the next place leaves the
number that was rounded to as it is. -/
theorem roundedTo_roundTo (count : Nat) {num den : Nat} (hn : 0 < num) (hd : 0 < den) :
    RoundedTo (count + 1) (num / den) ((roundTo (count + 1) num den).1 *
      10 ^ ((roundTo (count + 1) num den).2 - count)) := by
  have positive : (0 : ℚ) < num / den := by positivity
  obtain ⟨low, high⟩ := leadingPlace_spec hn hd
  have place : leadingPlace num den + 1 - ((count + 1 : Nat) : Int) =
      leadingPlace num den - count := by omega
  have nearest := nearestEven_roundDiv (a := (inUnits (leadingPlace num den - count) num den).1)
    (inUnits_pos (leadingPlace num den - count) num hd)
  rw [inUnits_div] at nearest
  refine ⟨leadingPlace num den, _, ?_, ?_, place ▸ nearest, ?_⟩
  · rwa [abs_of_pos positive]
  · rwa [abs_of_pos positive]
  · unfold roundTo
    dsimp only
    rw [place]
    split
    · next carry =>
      rw [carry]
      have next : leadingPlace num den + 1 - (count : Int) = leadingPlace num den - count + 1 := by
        omega
      rw [next, zpow_add_one₀ (by norm_num), Nat.add_sub_cancel, Nat.pow_eq, Nat.pow_eq]
      push_cast
      rw [pow_succ]
      ring
    · rfl

namespace RoundedTo

variable {count : Nat} {r q : ℚ}

theorem abs_sub_le (h : RoundedTo (count + 1) r q) : |q - r| ≤ |r| / 10 ^ count / 2 := by
  obtain ⟨x, n, low, -, ⟨near, -⟩, rfl⟩ := h
  have place : x + 1 - ((count + 1 : Nat) : Int) = x - count := by omega
  rw [place] at near ⊢
  have unit : (0 : ℚ) < 10 ^ (x - count) := by positivity
  have power : (0 : ℚ) < 10 ^ count := by positivity
  have least : (10 : ℚ) ^ (x - count) ≤ |r| / 10 ^ count := by
    rw [le_div_iff₀ power, mul_comm, ← zpow_split]
    exact low
  calc
    |n * 10 ^ (x - count) - r| = |r / 10 ^ (x - count) - n| * 10 ^ (x - count) := by
      rw [abs_sub_comm, ← abs_of_pos unit, ← abs_mul, abs_of_pos unit, sub_mul,
        div_mul_cancel₀ _ unit.ne']
    _ ≤ 1 / 2 * 10 ^ (x - count) := mul_le_mul_of_nonneg_right near unit.le
    _ ≤ |r| / 10 ^ count / 2 := by linarith

private theorem ne_zero (h : RoundedTo (count + 1) r q) : r ≠ 0 := by
  obtain ⟨x, -, low, -⟩ := h
  rintro rfl
  rw [abs_zero] at low
  exact absurd low (not_le.mpr (by positivity))

theorem pos_of_pos (h : RoundedTo (count + 1) r q) (positive : 0 < r) : 0 < q := by
  have bound := h.abs_sub_le
  have some : (1 : ℚ) ≤ 10 ^ count := one_le_pow₀ (by norm_num)
  rw [abs_of_pos positive] at bound
  have part : r / 10 ^ count ≤ r := div_le_self positive.le some
  obtain ⟨low, -⟩ := abs_le.mp bound
  linarith

theorem keeps_sign (h : RoundedTo (count + 1) r q) : q ≠ 0 ∧ (q < 0 ↔ r < 0) := by
  rcases lt_or_gt_of_ne h.ne_zero with negative | positive
  · have negative' := h.neg.pos_of_pos (neg_pos.mpr negative)
    have negative' : q < 0 := by linarith
    exact ⟨negative'.ne, iff_of_true negative' negative⟩
  · have positive' := h.pos_of_pos positive
    exact ⟨positive'.ne', iff_of_false positive'.le.not_gt positive.le.not_gt⟩

end RoundedTo

end Worksheet.Numeral

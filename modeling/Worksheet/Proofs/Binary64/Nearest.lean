import Worksheet.Binary64
import Worksheet.Proofs.Binary64.Bits
import Worksheet.Proofs.Numeral.Significant

/-!
The double nearest to a quotient. A quotient that is the value of a double is read as that double
(`ofFloat_nearest`), and one within the normal range is read as a number that differs from it by no
more than half a unit in the last of fifty-three places (`exists_ofFloat_nearest`).
-/

set_option autoImplicit false
set_option relaxedAutoImplicit false

namespace Worksheet.Binary64

open Numeral

variable {num den m : Nat} {q : Int}

theorem quotient_div (m : Nat) (q : Int) :
    ((quotient m q).1 : ℚ) / (quotient m q).2 = m * 2 ^ q := by
  have scaled := scaleBy_div Nat.two_pos q m 1
  have same : scaleBy 2 q m 1 = quotient m q := by
    unfold scaleBy quotient
    split <;> simp
  rw [same] at scaled
  simpa using scaled

theorem quotient_pos (m : Nat) (q : Int) : 0 < (quotient m q).2 := by
  unfold quotient
  split
  · exact Nat.one_pos
  · exact Nat.pow_pos (by decide)

theorem quotient_fst_pos (positive : 0 < m) (q : Int) : 0 < (quotient m q).1 := by
  unfold quotient
  split
  · exact Nat.mul_pos positive (Nat.pow_pos (by decide))
  · exact positive

/-! ## The last place -/

private theorem log2_bounds {n : Nat} (hn : 0 < n) :
    (2 : ℚ) ^ n.log2 ≤ n ∧ (n : ℚ) < 2 ^ n.log2 * 2 := by
  have low := Nat.log2_self_le hn.ne'
  have high := Nat.lt_log2_self (n := n)
  rw [Nat.pow_succ] at high
  exact ⟨by exact_mod_cast low, by exact_mod_cast high⟩

private theorem quotient_log2_bounds (hn : 0 < num) (hd : 0 < den) :
    (2 : ℚ) ^ ((num.log2 : Int) - den.log2 - 53 + 52) ≤ num / den ∧
      (num : ℚ) / den < 2 ^ ((num.log2 : Int) - den.log2 - 53 + 54) := by
  obtain ⟨lown, highn⟩ := log2_bounds hn
  obtain ⟨lowd, highd⟩ := log2_bounds hd
  have hd' : (0 : ℚ) < den := by exact_mod_cast hd
  have power : (0 : ℚ) < 2 ^ den.log2 := by positivity
  have low : (num.log2 : Int) - den.log2 - 53 + 52 = num.log2 - (den.log2 + 1) := by omega
  have high : (num.log2 : Int) - den.log2 - 53 + 54 = num.log2 + 1 - den.log2 := by omega
  rw [low, high, zpow_sub₀ (by norm_num), zpow_sub₀ (by norm_num), zpow_add_one₀ (by norm_num),
    zpow_add_one₀ (by norm_num), zpow_natCast, zpow_natCast,
    div_le_div_iff₀ (by positivity) hd', div_lt_div_iff₀ hd' power]
  constructor <;> nlinarith

private theorem lastPlace_spec (hn : 0 < num) (hd : 0 < den) :
    ∃ e : Int, (2 : ℚ) ^ (e + 52) ≤ num / den ∧ (num : ℚ) / den < 2 ^ (e + 53) ∧
      lastPlace num den = max leastExponent e := by
  obtain ⟨low, high⟩ := quotient_log2_bounds hn hd
  unfold lastPlace
  generalize (num.log2 : Int) - den.log2 - 53 = q at low high
  have units := scaleBy_div Nat.two_pos (-q) num den
  have positive := scaleBy_pos Nat.two_pos (-q) num hd
  dsimp only
  generalize scaleBy 2 (-q) num den = r at units positive
  obtain ⟨a, b⟩ := r
  dsimp only at units positive ⊢
  have positive' : (0 : ℚ) < b := by exact_mod_cast positive
  have unit : (0 : ℚ) < 2 ^ q := by positivity
  have full : a < b * (2 * fractionCount) ↔ (num : ℚ) / den < 2 ^ (q + 53) := by
    have count : 2 * fractionCount = 2 ^ 53 := by decide
    have value : (num : ℚ) / den = a / b * 2 ^ q := by
      rw [units, Nat.cast_ofNat, mul_assoc, ← zpow_add₀ (by norm_num), neg_add_cancel, zpow_zero,
        mul_one]
    rw [value, count, add_comm q, zpow_add₀ (by norm_num), mul_lt_mul_iff_of_pos_right unit,
      div_lt_iff₀ positive', mul_comm b]
    exact_mod_cast Iff.rfl
  split
  · next below => exact ⟨q, low, full.mp below, rfl⟩
  · next above =>
    refine ⟨q + 1, ?_, ?_, rfl⟩
    · have reached := le_of_not_gt (mt full.mpr above)
      rwa [add_assoc]
    · rwa [add_assoc]

private theorem lastPlace_eq (proper : (finite false m q).Proper) (hn : 0 < num) (hd : 0 < den)
    (value : (num : ℚ) / den = m * 2 ^ q) : lastPlace num den = q := by
  obtain ⟨e, low, high, place⟩ := lastPlace_spec hn hd
  obtain ⟨bound, least, -, full⟩ := proper
  have count : (fractionCount : ℚ) = 2 ^ 52 := by norm_num [fractionCount]
  have unit : (0 : ℚ) < 2 ^ q := by positivity
  have bound' : (m : ℚ) < 2 ^ 53 := by
    have : (m : ℚ) < 2 * fractionCount := by exact_mod_cast bound
    rw [count] at this
    linarith
  have grows : (1 : ℚ) < 2 := by norm_num
  have upper : e + 52 < 53 + q := by
    refine (zpow_lt_zpow_iff_right₀ grows).mp (low.trans_lt ?_)
    rw [value, zpow_add₀ (by norm_num)]
    exact mul_lt_mul_of_pos_right (by exact_mod_cast bound') unit
  rw [place]
  rcases full with rfl | full
  · omega
  · have full' : (2 : ℚ) ^ 52 ≤ m := by rw [← count]; exact_mod_cast full
    have lower : 52 + q < e + 53 := by
      refine (zpow_lt_zpow_iff_right₀ grows).mp (lt_of_le_of_lt ?_ high)
      rw [value, zpow_add₀ (by norm_num)]
      exact mul_le_mul_of_nonneg_right (by exact_mod_cast full') unit.le
    omega

/-! ## Patterns -/

private theorem ofBits_of_proper (proper : (finite false m q).Proper) :
    m + (q - leastExponent).toNat * fractionCount ≤ infinityBits ∧
      ofBits (m + (q - leastExponent).toNat * fractionCount) = finite false m q := by
  obtain ⟨bound, least, most, full⟩ := proper
  obtain ⟨k, hk⟩ := Int.eq_ofNat_of_zero_le (a := q - leastExponent) (by omega)
  obtain rfl : q = leastExponent + k := by omega
  have count : fractionCount = 4503599627370496 := by decide
  have top : Nat.pow 2 63 = 9223372036854775808 := by decide
  unfold leastExponent at most
  rw [hk, Int.toNat_natCast, infinityBits]
  refine ⟨by rw [count] at bound ⊢; omega, ?_⟩
  generalize hb : m + k * fractionCount = bits
  have sign : bits / Nat.pow 2 63 % 2 = 0 := by rw [count] at bound hb; rw [top]; omega
  rcases Nat.lt_or_ge m fractionCount with small | large
  · obtain rfl : k = 0 := by unfold leastExponent at full hk; omega
    have first : bits / fractionCount % 2048 = 0 := by rw [count] at small hb ⊢; omega
    have last : bits % fractionCount = m := by rw [count] at small hb ⊢; omega
    simp [ofBits, sign, first, last]
  · have first : bits / fractionCount % 2048 = k + 1 := by rw [count] at bound large hb ⊢; omega
    have last : bits % fractionCount = m - fractionCount := by
      rw [count] at bound large hb ⊢
      omega
    unfold ofBits
    dsimp only
    rw [sign, first, last, if_neg (by omega), if_neg (by omega), Nat.sub_add_cancel large]
    simp

/-! ## The nearest double -/

private theorem nearestBits_eq : nearestBits = fun num den =>
    let q := lastPlace num den
    let (a, b) := scaleBy 2 (-q) num den
    min (roundDiv a b + (q - leastExponent).toNat * fractionCount) infinityBits := rfl

private theorem nearestBits_of_round {e : Int} (place : lastPlace num den = e) {k bits : Nat}
    (round : roundDiv (scaleBy 2 (-e) num den).1 (scaleBy 2 (-e) num den).2 = k)
    (pattern : k + (e - leastExponent).toNat * fractionCount = bits)
    (bound : bits ≤ infinityBits) : nearestBits num den = bits := by
  rw [congrFun (congrFun nearestBits_eq num) den]
  -- The two numbers are kept from being unfolded, which would count up to them.
  generalize infinityBits = top at bound ⊢
  generalize fractionCount = count at pattern ⊢
  rw [place]
  dsimp only
  rw [round, pattern, Nat.min_eq_left bound]

private theorem ofFloat_nearest_of_round (hn : 0 < num) {e : Int} (place : lastPlace num den = e)
    {k : Nat}
    (round : roundDiv (scaleBy 2 (-e) num den).1 (scaleBy 2 (-e) num den).2 = k)
    (pattern : k + (e - leastExponent).toNat * fractionCount =
      m + (q - leastExponent).toNat * fractionCount)
    (proper : (finite false m q).Proper) : ofFloat (nearest num den) = finite false m q := by
  obtain ⟨bound, value⟩ := ofBits_of_proper proper
  have bits := nearestBits_of_round place round pattern bound
  have small : infinityBits < UInt64.size := by decide
  rw [nearest, if_neg hn.ne', ofFloat_ofBits, bits,
    UInt64.toNat_ofNat_of_lt' (Nat.lt_of_le_of_lt bound small), value]

private theorem ofFloat_nearest_zero (proper : (finite false 0 q).Proper) (den : Nat) :
    ofFloat (nearest 0 den) = finite false 0 q := by
  obtain ⟨-, -, -, least | full⟩ := proper
  · rw [nearest, if_pos rfl, least]
    decide
  · exact absurd full (by decide)

theorem ofFloat_nearest (proper : (finite false m q).Proper) (hd : 0 < den)
    (value : (num : ℚ) / den = m * 2 ^ q) : ofFloat (nearest num den) = finite false m q := by
  rcases Nat.eq_zero_or_pos num with rfl | hn
  · have zero : m = 0 := by
      have unit : (2 : ℚ) ^ q ≠ 0 := by positivity
      rw [Nat.cast_zero, zero_div, eq_comm, mul_eq_zero_iff_right unit] at value
      exact_mod_cast value
    subst zero
    exact ofFloat_nearest_zero proper den
  · refine ofFloat_nearest_of_round hn (lastPlace_eq proper hn hd value) ?_ rfl proper
    refine roundDiv_eq (scaleBy_pos (by decide) _ _ hd) ?_
    have exact : (num : ℚ) / den * 2 ^ (-q) = m := by
      rw [value, mul_assoc, ← zpow_add₀ (by norm_num), add_neg_cancel, zpow_zero, mul_one]
    rw [scaleBy_div (by decide), Nat.cast_ofNat, exact, sub_self, abs_zero]
    norm_num

private theorem rounded_bounds {u : ℚ} {k : Nat} (round : |(k : ℚ) - u| ≤ 1 / 2)
    (least : (2 : ℚ) ^ (52 : Int) ≤ u) (most : u < 2 ^ (53 : Int)) :
    fractionCount ≤ k ∧ k ≤ 2 * fractionCount := by
  have count : (fractionCount : ℚ) = 2 ^ (52 : Int) := by norm_num [fractionCount]
  have double : (2 : ℚ) ^ (53 : Int) = 2 * 2 ^ (52 : Int) := by norm_num
  obtain ⟨above, below⟩ := abs_le.mp round
  have large : (fractionCount : ℚ) < k + 1 := by rw [count]; linarith
  have small : (k : ℚ) < 2 * fractionCount + 1 := by rw [count, ← double]; linarith
  have large' : fractionCount < k + 1 := by exact_mod_cast large
  have small' : k < 2 * fractionCount + 1 := by exact_mod_cast small
  exact ⟨Nat.le_of_lt_succ large', Nat.le_of_lt_succ small'⟩

private theorem rounded_near {v : ℚ} {k : Nat} {e : Int} (round : |(k : ℚ) - v / 2 ^ e| ≤ 1 / 2)
    (least : (2 : ℚ) ^ (52 : Int) ≤ v / 2 ^ e) : |(k : ℚ) * 2 ^ e - v| ≤ v / 2 ^ 53 := by
  have unit : (0 : ℚ) < 2 ^ e := by positivity
  have value : v = v / 2 ^ e * 2 ^ e := by field_simp
  rw [le_div_iff₀ unit] at least
  calc
    |(k : ℚ) * 2 ^ e - v| = |(k : ℚ) - v / 2 ^ e| * 2 ^ e := by
      rw [← abs_of_pos unit, ← abs_mul, abs_of_pos unit, sub_mul, ← value]
    _ ≤ 1 / 2 * 2 ^ e := mul_le_mul_of_nonneg_right round unit.le
    _ ≤ v / 2 ^ 53 := by
      rw [le_div_iff₀ (by norm_num)]
      norm_num at least ⊢
      linarith

theorem exists_ofFloat_nearest (hn : 0 < num) (hd : 0 < den)
    (low : (2 : ℚ) ^ (-1000 : Int) ≤ num / den) (high : (num : ℚ) / den < 2 ^ (1000 : Int)) :
    ∃ m q, ofFloat (nearest num den) = finite false m q ∧ 0 < m ∧
      |(m : ℚ) * 2 ^ q - num / den| ≤ num / den / 2 ^ 53 := by
  have grows : (1 : ℚ) < 2 := by norm_num
  obtain ⟨e, least, most, place⟩ := lastPlace_spec hn hd
  have lower := (zpow_lt_zpow_iff_right₀ grows).mp (low.trans_lt most)
  have upper := (zpow_lt_zpow_iff_right₀ grows).mp (least.trans_lt high)
  have place : lastPlace num den = e := by rw [place]; unfold leastExponent; omega
  have unit : (0 : ℚ) < 2 ^ e := by positivity
  have round := abs_roundDiv_sub_le (a := (scaleBy 2 (-e) num den).1)
    (scaleBy_pos Nat.two_pos (-e) num hd)
  rw [scaleBy_div (by decide), Nat.cast_ofNat, zpow_neg, ← div_eq_mul_inv] at round
  generalize hk : roundDiv (scaleBy 2 (-e) num den).1 (scaleBy 2 (-e) num den).2 = k at round
  rw [add_comm e, zpow_add₀ (by norm_num), ← le_div_iff₀ unit] at least
  rw [add_comm e, zpow_add₀ (by norm_num), ← div_lt_iff₀ unit] at most
  have near := rounded_near round least
  have some : 0 < fractionCount := by decide
  obtain ⟨large, small⟩ := rounded_bounds round least most
  rcases Nat.lt_or_eq_of_le small with inside | full
  · have proper : (finite false k e).Proper :=
      ⟨inside, by unfold leastExponent; omega, by omega, .inr large⟩
    exact ⟨k, e, ofFloat_nearest_of_round hn place hk rfl proper, by omega, near⟩
  · have proper : (finite false fractionCount (e + 1)).Proper :=
      ⟨by omega, by unfold leastExponent; omega, by omega, .inr (Nat.le_refl _)⟩
    have next : (e + 1 - leastExponent).toNat = (e - leastExponent).toNat + 1 := by
      unfold leastExponent
      omega
    have pattern : k + (e - leastExponent).toNat * fractionCount =
        fractionCount + (e + 1 - leastExponent).toNat * fractionCount := by
      rw [full, next]
      ring
    have value : (fractionCount : ℚ) * 2 ^ (e + 1) = k * 2 ^ e := by
      rw [full, zpow_add_one₀ (by norm_num)]
      push_cast
      ring
    exact ⟨fractionCount, e + 1, ofFloat_nearest_of_round hn place hk pattern proper, some,
      value ▸ near⟩

end Worksheet.Binary64

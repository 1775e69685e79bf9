import Mathlib.Algebra.Order.Field.Power
import Mathlib.Data.Rat.Cast.Order
import Mathlib.Tactic.FieldSimp
import Mathlib.Tactic.Linarith
import Mathlib.Tactic.Positivity
import Mathlib.Tactic.Ring
import Worksheet.Numeral.Basic

/-!
Rounded quotients as rational numbers. A quotient within half a unit of a whole number is rounded to
that number (`roundDiv_eq`), and one within a twentieth of the last place of ten digits has those
digits (`roundTo_eq`).
-/

set_option autoImplicit false
set_option relaxedAutoImplicit false

namespace Worksheet.Numeral

/-! ## Whole numbers -/

theorem scaleBy_pos {base : Nat} (hbase : 0 < base) (e : Int) (a : Nat) {b : Nat} (hb : 0 < b) :
    0 < (scaleBy base e a b).2 := by
  unfold scaleBy
  split
  · exact hb
  · exact Nat.mul_pos hb (Nat.pow_pos hbase)

theorem scaleBy_div {base : Nat} (hbase : 0 < base) (e : Int) (a b : Nat) :
    ((scaleBy base e a b).1 : ℚ) / (scaleBy base e a b).2 = a / b * (base : ℚ) ^ e := by
  unfold scaleBy
  split
  · next up =>
    obtain ⟨k, rfl⟩ := Int.eq_ofNat_of_zero_le up
    simp only [Int.toNat_natCast, Nat.pow_eq, Nat.cast_mul, Nat.cast_pow, zpow_natCast]
    ring
  · next down =>
    obtain ⟨k, hk⟩ := Int.eq_ofNat_of_zero_le (a := -e) (by omega)
    obtain rfl : e = -k := by omega
    simp only [neg_neg, Int.toNat_natCast, Nat.pow_eq, Nat.cast_mul, Nat.cast_pow, zpow_neg,
      zpow_natCast]
    field_simp

theorem abs_roundDiv_sub_le {a b : Nat} (hb : 0 < b) :
    |(roundDiv a b : ℚ) - a / b| ≤ 1 / 2 := by
  obtain ⟨low, high⟩ := roundDiv_near (a := a) hb
  have hb' : (0 : ℚ) < b := by exact_mod_cast hb
  have low' : 2 * (a : ℚ) ≤ 2 * (roundDiv a b * b) + b := by exact_mod_cast low
  have high' : 2 * ((roundDiv a b : ℚ) * b) ≤ 2 * a + b := by exact_mod_cast high
  have scaled : (roundDiv a b : ℚ) - a / b = (roundDiv a b * b - a) / b := by field_simp
  rw [scaled, abs_le, le_div_iff₀ hb', div_le_iff₀ hb']
  constructor
  · linarith
  · linarith

theorem roundDiv_eq {a b k : Nat} (hb : 0 < b) (near : |(a : ℚ) / b - k| < 1 / 2) :
    roundDiv a b = k := by
  have round := abs_roundDiv_sub_le (a := a) hb
  rw [abs_lt] at near
  rw [abs_le] at round
  have low : (roundDiv a b : ℚ) < k + 1 := by linarith
  have high : (k : ℚ) < roundDiv a b + 1 := by linarith
  have low' : roundDiv a b < k + 1 := by exact_mod_cast low
  have high' : k < roundDiv a b + 1 := by exact_mod_cast high
  omega

/-! ## The first digit -/

private theorem length_toDigits_bounds {n : Nat} (hn : 0 < n) :
    10 ^ ((Nat.toDigits 10 n).length - 1) ≤ n ∧ n < 10 ^ (Nat.toDigits 10 n).length := by
  have some := Nat.length_toDigits_pos (b := 10) (n := n)
  have fits {k : Nat} (hk : 0 < k) : (Nat.toDigits 10 n).length ≤ k ↔ n < 10 ^ k :=
    Nat.length_toDigits_le_iff (by decide) hk
  refine ⟨?_, (fits some).mp (Nat.le_refl _)⟩
  rcases Nat.eq_zero_or_pos ((Nat.toDigits 10 n).length - 1) with single | several
  · rw [single]
    exact hn
  · have := fits several
    omega

theorem leadingPlace_spec {num den : Nat} (hn : 0 < num) (hd : 0 < den) :
    (10 : ℚ) ^ leadingPlace num den ≤ num / den ∧
      (num : ℚ) / den < 10 ^ (leadingPlace num den + 1) := by
  have hn' : (0 : ℚ) < num := by exact_mod_cast hn
  have hd' : (0 : ℚ) < den := by exact_mod_cast hd
  unfold leadingPlace
  split
  · next large =>
    obtain ⟨low, high⟩ := length_toDigits_bounds (Nat.div_pos large hd)
    have place := Nat.length_toDigits_pos (b := 10) (n := num / den)
    generalize (Nat.toDigits 10 (num / den)).length = k at low high place
    obtain ⟨j, rfl⟩ : ∃ j, k = j + 1 := ⟨k - 1, by omega⟩
    have low' : 10 ^ j * den ≤ num := (Nat.le_div_iff_mul_le hd).mp low
    have high' : num < 10 ^ (j + 1) * den := (Nat.div_lt_iff_lt_mul hd).mp high
    have exponent : ((j + 1 : Nat) : Int) - 1 = j := by omega
    rw [exponent, le_div_iff₀ hd', div_lt_iff₀ hd', zpow_add₀ (by norm_num), zpow_natCast, zpow_one,
      ← pow_succ]
    exact ⟨by exact_mod_cast low', by exact_mod_cast high'⟩
  · next small =>
    have some : 0 < (den - 1) / num := Nat.div_pos (by omega) hn
    obtain ⟨low, high⟩ := length_toDigits_bounds some
    have place := Nat.length_toDigits_pos (b := 10) (n := (den - 1) / num)
    generalize (Nat.toDigits 10 ((den - 1) / num)).length = k at low high place
    obtain ⟨j, rfl⟩ : ∃ j, k = j + 1 := ⟨k - 1, by omega⟩
    have low' : 10 ^ j * num < den := by
      have := (Nat.le_div_iff_mul_le hn).mp low
      rw [Nat.add_sub_cancel] at this
      omega
    have high' : den ≤ 10 ^ (j + 1) * num := by
      have := (Nat.div_lt_iff_lt_mul hn).mp high
      omega
    have exponent : -((j + 1 : Nat) : Int) + 1 = -j := by omega
    rw [exponent, zpow_neg, zpow_neg, zpow_natCast, zpow_natCast,
      inv_le_comm₀ (by positivity) (by positivity), inv_div, div_le_iff₀ hn',
      lt_inv_comm₀ (by positivity) (by positivity), inv_div, lt_div_iff₀ hn']
    exact ⟨by exact_mod_cast high', by exact_mod_cast low'⟩

private theorem leadingPlace_eq {num den : Nat} (hn : 0 < num) (hd : 0 < den) {x : Int}
    (low : (10 : ℚ) ^ x ≤ num / den) (high : (num : ℚ) / den < 10 ^ (x + 1)) :
    leadingPlace num den = x := by
  obtain ⟨low', high'⟩ := leadingPlace_spec hn hd
  have up := (zpow_lt_zpow_iff_right₀ (by norm_num : (1 : ℚ) < 10)).mp (low'.trans_lt high)
  have down := (zpow_lt_zpow_iff_right₀ (by norm_num : (1 : ℚ) < 10)).mp (low.trans_lt high')
  omega

/-! ## Ten digits -/

theorem inUnits_div (place : Int) (num den : Nat) :
    ((inUnits place num den).1 : ℚ) / (inUnits place num den).2 = num / den / 10 ^ place := by
  rw [inUnits, scaleBy_div (by decide), Nat.cast_ofNat, zpow_neg, div_eq_mul_inv (num / den : ℚ)]

theorem inUnits_pos (place : Int) (num : Nat) {den : Nat} (hd : 0 < den) :
    0 < (inUnits place num den).2 :=
  scaleBy_pos (by decide) _ _ hd

theorem zpow_split (count : Nat) (x : Int) :
    (10 : ℚ) ^ x = 10 ^ count * 10 ^ (x - count) := by
  rw [← zpow_natCast, ← zpow_add₀ (by norm_num)]
  congr 1
  omega

theorem roundTo_bounds (count : Nat) {num den : Nat} (hn : 0 < num) (hd : 0 < den) :
    10 ^ count ≤ (roundTo (count + 1) num den).1 ∧
      (roundTo (count + 1) num den).1 < 10 ^ (count + 1) := by
  obtain ⟨low, high⟩ := leadingPlace_spec hn hd
  have place : leadingPlace num den + 1 - ((count + 1 : Nat) : Int) =
      leadingPlace num den - count := by omega
  have units := inUnits_div (leadingPlace num den - count) num den
  have positive := inUnits_pos (leadingPlace num den - count) num hd
  have unit : (0 : ℚ) < 10 ^ (leadingPlace num den - count) := by positivity
  rw [zpow_split count (leadingPlace num den)] at low
  rw [zpow_add₀ (by norm_num), zpow_split count (leadingPlace num den), zpow_one] at high
  unfold roundTo
  dsimp only
  rw [place]
  generalize inUnits (leadingPlace num den - count) num den = r at units positive
  obtain ⟨a, b⟩ := r
  dsimp only at units positive ⊢
  have round := abs_roundDiv_sub_le (a := a) positive
  rw [units, abs_le] at round
  have least : (10 : ℚ) ^ count ≤ num / den / 10 ^ (leadingPlace num den - count) :=
    (le_div_iff₀ unit).mpr low
  have most : (num : ℚ) / den / 10 ^ (leadingPlace num den - count) < 10 ^ count * 10 :=
    (div_lt_iff₀ unit).mpr (by linarith)
  have least' : ((10 ^ count : Nat) : ℚ) < roundDiv a b + 1 := by push_cast; linarith
  have most' : (roundDiv a b : ℚ) < (10 ^ (count + 1) : Nat) + 1 := by
    push_cast
    rw [pow_succ]
    linarith
  have least' : 10 ^ count < roundDiv a b + 1 := by exact_mod_cast least'
  have most' : roundDiv a b < 10 ^ (count + 1) + 1 := by exact_mod_cast most'
  split
  · exact ⟨Nat.le_refl _, Nat.pow_lt_pow_right (by decide) (Nat.lt_succ_self count)⟩
  · next other =>
    rw [Nat.pow_eq] at other
    dsimp only
    omega

private theorem roundTo_of_units {count d : Nat} {num den : Nat} (hd : 0 < den)
    (near : |(num : ℚ) / den / 10 ^ (leadingPlace num den - count) - d| < 1 / 2) :
    roundTo (count + 1) num den = if d = 10 ^ (count + 1)
      then (10 ^ count, leadingPlace num den + 1) else (d, leadingPlace num den) := by
  have place : leadingPlace num den + 1 - ((count + 1 : Nat) : Int) =
      leadingPlace num den - count := by omega
  have units := inUnits_div (leadingPlace num den - count) num den
  have positive := inUnits_pos (leadingPlace num den - count) num hd
  rw [← units] at near
  unfold roundTo
  dsimp only
  rw [place, roundDiv_eq positive near]
  rfl

private theorem abs_div_sub_lt {r u d : ℚ} (unit : 0 < u) (near : |r - d * u| < u / 2) :
    |r / u - d| < 1 / 2 := by
  have scaled : r / u - d = (r - d * u) / u := by field_simp
  rw [scaled, abs_div, abs_of_pos unit, div_lt_iff₀ unit]
  linarith

/-- A quotient that is less than a twentieth of the last place off a number of so many digits is
rounded to that number. Just below a power of ten the last place is a tenth of it. -/
theorem roundTo_eq {count d : Nat} {x : Int} {num den : Nat} (hn : 0 < num) (hd : 0 < den)
    (least : 10 ^ count ≤ d) (most : d < 10 ^ (count + 1))
    (near : |(num : ℚ) / den - d * 10 ^ (x - count)| < 10 ^ (x - count) / 20) :
    roundTo (count + 1) num den = (d, x) := by
  have unit : (0 : ℚ) < 10 ^ (x - count) := by positivity
  have some : (1 : ℚ) ≤ 10 ^ count := one_le_pow₀ (by norm_num)
  have top : (d + 1) * (10 : ℚ) ^ (x - count) ≤ 10 ^ (x + 1) := by
    have most' : (d : ℚ) + 1 ≤ 10 ^ count * 10 := by rw [← pow_succ]; exact_mod_cast most
    rw [zpow_add_one₀ (by norm_num), zpow_split count x, mul_right_comm]
    exact mul_le_mul_of_nonneg_right most' unit.le
  obtain ⟨above, below⟩ := abs_lt.mp near
  rcases le_or_gt ((10 : ℚ) ^ x) (num / den) with inside | under
  · have lead : leadingPlace num den = x := leadingPlace_eq hn hd inside (by linarith)
    have units : |(num : ℚ) / den / 10 ^ (x - count) - d| < 1 / 2 :=
      abs_div_sub_lt unit (near.trans (by linarith))
    rw [roundTo_of_units hd (d := d) (by rw [lead]; exact units), if_neg (by omega), lead]
  · have first := zpow_split count x
    have least' : d = 10 ^ count := by
      by_contra other
      have large : (10 : ℚ) ^ count + 1 ≤ d := by
        exact_mod_cast Nat.lt_of_le_of_ne least (Ne.symm other)
      have bottom := mul_le_mul_of_nonneg_right large unit.le
      linarith
    have lead : leadingPlace num den = x - 1 := by
      have tenth : (10 : ℚ) ^ (x - 1) * 10 = 10 ^ x := by
        rw [← zpow_add_one₀ (by norm_num), sub_add_cancel]
      have bottom := mul_le_mul_of_nonneg_right some unit.le
      rw [least'] at above
      push_cast at above
      exact leadingPlace_eq hn hd (by linarith) (by rw [sub_add_cancel]; exact under)
    have tenth : (10 : ℚ) ^ (x - count) = 10 * 10 ^ (x - 1 - count) := by
      rw [mul_comm, ← zpow_add_one₀ (by norm_num)]
      congr 1
      omega
    have units : |(num : ℚ) / den / 10 ^ (x - 1 - count) - (10 ^ (count + 1) : Nat)| < 1 / 2 := by
      have near' : |(num : ℚ) / den - (10 ^ (count + 1) : Nat) * 10 ^ (x - 1 - count)| <
          10 ^ (x - 1 - count) / 2 := by
        rw [least', tenth] at near
        push_cast at near ⊢
        rw [pow_succ, mul_assoc]
        linarith
      exact abs_div_sub_lt (by positivity) near'
    rw [roundTo_of_units hd (d := 10 ^ (count + 1)) (by rw [lead]; exact units), if_pos rfl, lead,
      sub_add_cancel, least']

end Worksheet.Numeral

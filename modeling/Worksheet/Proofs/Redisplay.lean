import Worksheet.Display
import Worksheet.Proofs.Binary64.Nearest
import Worksheet.Proofs.Numeral.Layout

/-!
Numbers that are shown without a power of ten. Such a text is a decimal, and the double that is
nearest to that decimal is shown by the same text (`showSize_nearest`): it is so near that neither
the ten digits nor the place of the first of them change.
-/

set_option autoImplicit false
set_option relaxedAutoImplicit false

namespace Worksheet

open Binary64 Numeral

variable {m : Nat} {q : Int}

theorem Binary64.whole?_eq_some {negative : Bool} {n : Nat} :
    (finite negative m q).whole? = some n ↔ (m : ℚ) * 2 ^ q = n := by
  have positive := quotient_pos m q
  have positive' : (0 : ℚ) < (quotient m q).2 := by exact_mod_cast positive
  rw [← quotient_div, div_eq_iff positive'.ne', whole?]
  generalize quotient m q = r at positive
  obtain ⟨a, b⟩ := r
  dsimp only at positive ⊢
  split
  · next divides =>
    rw [Option.some.injEq, Nat.div_eq_iff_eq_mul_left positive (Nat.dvd_of_mod_eq_zero divides)]
    exact_mod_cast Iff.rfl
  · next rest =>
    refine ⟨nofun, fun same => ?_⟩
    have same : a = n * b := by exact_mod_cast same
    exact absurd (same ▸ Nat.mul_mod_left n b) rest

/-! ## Sizes -/

def showSize (m : Nat) (q : Int) : List Char :=
  match (finite false m q).whole?.filter (· < wholeBound) with
  | some n => ofNat n
  | none => showQuotient (quotient m q).1 (quotient m q).2

theorem showSize_of_whole {n : Nat} (value : (m : ℚ) * 2 ^ q = n) (small : n < wholeBound) :
    showSize m q = ofNat n := by
  rw [showSize, whole?_eq_some.mpr value, Option.filter_some, if_pos (decide_eq_true small)]

theorem showSize_of_not_whole (other : ¬ ∃ n : Nat, (m : ℚ) * 2 ^ q = n ∧ n < wholeBound) :
    showSize m q = showQuotient (quotient m q).1 (quotient m q).2 := by
  have none : (finite false m q).whole?.filter (· < wholeBound) = none := by
    refine Option.filter_eq_none_iff.mpr fun n value small => other ⟨n, ?_, ?_⟩
    · exact whole?_eq_some.mp value
    · exact of_decide_eq_true small
  rw [showSize, none]

theorem ofInt_neg {n : Nat} (positive : 0 < n) : ofInt (-(n : Int)) = '-' :: ofNat n := by
  rw [ofInt, if_pos (by omega), Int.natAbs_neg, Int.natAbs_natCast]

def signText (negative : Bool) : List Char := if negative then ['-'] else []

theorem showNumber_eq {v : Float} {negative : Bool} (parts : ofFloat v = finite negative m q) :
    showNumber v = String.ofList (signText (negative && m != 0) ++ showSize m q) := by
  have same : (finite negative m q).whole? = (finite false m q).whole? := rfl
  have unit : (2 : ℚ) ^ q ≠ 0 := by positivity
  rw [showNumber, parts, showSize]
  dsimp only
  rw [same]
  cases whole : (finite false m q).whole?.filter (· < wholeBound) with
  | some n =>
    have value := whole?_eq_some.mp (Option.filter_eq_some_iff.mp whole).1
    have zero : m = 0 ↔ n = 0 := by
      rw [← @Nat.cast_eq_zero ℚ, ← @Nat.cast_eq_zero ℚ _ _ n, ← value, mul_eq_zero_iff_right unit]
    dsimp only
    congr 1
    rcases Nat.eq_zero_or_pos n with rfl | positive
    · obtain rfl := zero.mpr rfl
      cases negative <;> rfl
    · have nonzero : (m != 0) = true := bne_iff_ne.mpr fun none => positive.ne' (zero.mp none)
      rw [nonzero, Bool.and_true]
      cases negative with
      | false => exact ofInt_natCast n
      | true => exact ofInt_neg positive
  | none =>
    have nonzero : (m != 0) = true := by
      refine bne_iff_ne.mpr ?_
      rintro rfl
      have value : (finite false 0 q).whole? = some 0 := whole?_eq_some.mpr (by simp)
      rw [value] at whole
      contradiction
    rw [nonzero, Bool.and_true]
    rfl

private theorem showQuotient_eq {num den d : Nat} {x : Int}
    (rounded : roundTo 10 num den = (d, x)) :
    showQuotient num den = if -4 ≤ x ∧ x < 10 then byPosition false (significantDigits d) x
      else byPower (significantDigits d) x := by
  rw [showQuotient, rounded]
  rfl

/-! ## Near sizes -/

/-- Ten digits, and a place for the first of them from which they are shown by position. -/
structure TenDigits (d : Nat) (x : Int) : Prop where
  least : 10 ^ 9 ≤ d
  most : d < 10 ^ 10
  low : -4 ≤ x
  high : x < 10

private theorem eq_mul_pow_of_near {n d k : Nat} (most : d < 10 ^ 10)
    (near : |(n : ℚ) - d / 10 ^ k| ≤ d / 10 ^ k / 2 ^ 53) : d = n * 10 ^ k := by
  have power : (0 : ℚ) < 10 ^ k := by positivity
  have most' : (d : ℚ) < 10 ^ 10 := by exact_mod_cast most
  have bound : |(n : ℚ) * 10 ^ k - d| < 1 := calc
    |(n : ℚ) * 10 ^ k - d| = |(n : ℚ) - d / 10 ^ k| * 10 ^ k := by
      rw [← abs_of_pos power, ← abs_mul, abs_of_pos power, sub_mul, div_mul_cancel₀ _ power.ne']
    _ ≤ d / 10 ^ k / 2 ^ 53 * 10 ^ k := mul_le_mul_of_nonneg_right near power.le
    _ = d / 2 ^ 53 := by field_simp
    _ < 1 := by rw [div_lt_one (by norm_num)]; linarith
  obtain ⟨low, high⟩ := abs_lt.mp bound
  have low' : (d : ℚ) < (n * 10 ^ k : Nat) + 1 := by push_cast; linarith
  have high' : ((n * 10 ^ k : Nat) : ℚ) < d + 1 := by push_cast; linarith
  have low'' : d < n * 10 ^ k + 1 := by exact_mod_cast low'
  have high'' : n * 10 ^ k < d + 1 := by exact_mod_cast high'
  omega

private theorem ofNat_eq_byPosition {n k : Nat} {x : Int} (place : x - 9 = -(k : Int))
    (least : 10 ^ 9 ≤ n * 10 ^ k) (most : n * 10 ^ k < 10 ^ 10) :
    ofNat n = byPosition false (significantDigits (n * 10 ^ k)) x := by
  have positive : 0 < n := Nat.pos_of_ne_zero fun zero => by simp [zero] at least
  have small : k < 10 := by
    refine (Nat.pow_lt_pow_iff_right (a := 10) (by decide)).mp (Nat.lt_of_le_of_lt ?_ most)
    exact Nat.le_mul_of_pos_left _ positive
  obtain ⟨j, rfl⟩ : ∃ j : Nat, x = j := ⟨x.toNat, by omega⟩
  have first : 10 ^ 9 = 10 ^ j * 10 ^ k := by rw [← pow_add]; congr 1; omega
  have next : 10 ^ 10 = 10 ^ (j + 1) * 10 ^ k := by rw [← pow_add]; congr 1; omega
  have low := Nat.le_of_mul_le_mul_right (first ▸ least) (by positivity)
  have high := Nat.lt_of_mul_lt_mul_right (next ▸ most)
  exact (byPosition_whole positive (length_ofNat_eq low high) k).symm

/-- A size that is very near to a number of ten digits is shown by those digits. -/
private theorem TenDigits.showSize_eq {d : Nat} {x : Int} (h : TenDigits d x) (positive : 0 < m)
    (near : |(m : ℚ) * 2 ^ q - d * 10 ^ (x - 9)| ≤ d * 10 ^ (x - 9) / 2 ^ 53) :
    showSize m q = byPosition false (significantDigits d) x := by
  obtain ⟨least, most, low, high⟩ := h
  by_cases whole : ∃ n : Nat, (m : ℚ) * 2 ^ q = n ∧ n < wholeBound
  · obtain ⟨n, value, small⟩ := whole
    obtain ⟨k, place⟩ : ∃ k : Nat, x - 9 = -(k : Int) := ⟨(9 - x).toNat, by omega⟩
    rw [value, place, zpow_neg, zpow_natCast, ← div_eq_mul_inv] at near
    obtain rfl := eq_mul_pow_of_near most near
    rw [showSize_of_whole value small, ofNat_eq_byPosition place least most]
  · have unit : (0 : ℚ) < 10 ^ (x - 9) := by positivity
    have most' : (d : ℚ) < 10 ^ 10 := by exact_mod_cast most
    have near' : |(m : ℚ) * 2 ^ q - d * 10 ^ (x - 9)| < 10 ^ (x - 9) / 20 := by
      refine near.trans_lt ?_
      rw [div_lt_div_iff₀ (by positivity) (by norm_num)]
      nlinarith
    have rounded : roundTo (9 + 1) (quotient m q).1 (quotient m q).2 = (d, x) :=
      roundTo_eq (quotient_fst_pos positive q) (quotient_pos m q) least most
        (by rw [quotient_div]; exact near')
    rw [showSize_of_not_whole whole, showQuotient_eq rounded, if_pos ⟨low, high⟩]

private theorem TenDigits.bounds {d : Nat} {x : Int} (h : TenDigits d x) :
    (2 : ℚ) ^ (-1000 : Int) ≤ d * 10 ^ (x - 9) ∧ (d : ℚ) * 10 ^ (x - 9) < 2 ^ (1000 : Int) := by
  obtain ⟨least, most, low, high⟩ := h
  have unit : (0 : ℚ) < 10 ^ (x - 9) := by positivity
  have least' : (10 : ℚ) ^ (9 : Int) ≤ d := by exact_mod_cast least
  have most' : (d : ℚ) < 10 ^ (10 : Int) := by exact_mod_cast most
  have grows : (1 : ℚ) ≤ 10 := by norm_num
  constructor
  · calc
      (2 : ℚ) ^ (-1000 : Int) ≤ 2 ^ (-14 : Int) := zpow_le_zpow_right₀ (by norm_num) (by decide)
      _ ≤ 10 ^ (-4 : Int) := by norm_num
      _ ≤ 10 ^ (9 + (x - 9)) := zpow_le_zpow_right₀ grows (by omega)
      _ = 10 ^ (9 : Int) * 10 ^ (x - 9) := zpow_add₀ (by norm_num) _ _
      _ ≤ d * 10 ^ (x - 9) := mul_le_mul_of_nonneg_right least' unit.le
  · calc
      (d : ℚ) * 10 ^ (x - 9) < 10 ^ (10 : Int) * 10 ^ (x - 9) := mul_lt_mul_of_pos_right most' unit
      _ = 10 ^ (10 + (x - 9)) := (zpow_add₀ (by norm_num) _ _).symm
      _ ≤ 10 ^ (10 : Int) := zpow_le_zpow_right₀ grows (by omega)
      _ ≤ 2 ^ (34 : Int) := by norm_num
      _ ≤ 2 ^ (1000 : Int) := zpow_le_zpow_right₀ (by norm_num) (by decide)

private theorem TenDigits.exists_nearest {d : Nat} {x : Int} (h : TenDigits d x) {num den : Nat}
    (hd : 0 < den) (same : (num : ℚ) / den = d * 10 ^ (x - 9)) :
    ∃ m q, ofFloat (nearest num den) = finite false m q ∧ 0 < m ∧
      showSize m q = byPosition false (significantDigits d) x := by
  obtain ⟨lower, upper⟩ := h.bounds
  rw [← same] at lower upper
  have hn : 0 < num := by
    refine Nat.pos_of_ne_zero fun zero => lower.not_gt ?_
    rw [zero, Nat.cast_zero, zero_div]
    positivity
  obtain ⟨m, q, parts, positive, near⟩ := exists_ofFloat_nearest hn hd lower upper
  exact ⟨m, q, parts, positive, h.showSize_eq positive (same ▸ near)⟩

private theorem exists_tenDigits (other : ¬ ∃ n : Nat, (m : ℚ) * 2 ^ q = n ∧ n < wholeBound)
    (positive : 0 < m) (plain : 'e' ∉ showSize m q) :
    ∃ d x, TenDigits d x ∧ showSize m q = byPosition false (significantDigits d) x := by
  obtain ⟨least, most⟩ := roundTo_bounds 9 (quotient_fst_pos positive q) (quotient_pos m q)
  generalize rounded : roundTo (9 + 1) (quotient m q).1 (quotient m q).2 = r at least most
  obtain ⟨d, x⟩ := r
  have text := (showSize_of_not_whole other).trans (showQuotient_eq rounded)
  have place : -4 ≤ x ∧ x < 10 := by
    by_contra outside
    rw [text, if_neg outside] at plain
    exact plain (by simp [byPower])
  rw [if_pos place] at text
  exact ⟨d, x, ⟨least, most, place.1, place.2⟩, text⟩

/-- A number that is shown without a power of ten is shown as a decimal, and the double nearest to
that decimal is shown in the same way. A short whole number is that double. -/
theorem showSize_nearest (proper : (finite false m q).Proper) (plain : 'e' ∉ showSize m q) :
    ∃ r : ℚ, Denotes (showSize m q) r ∧
      ∀ num den : Nat, 0 < den → (num : ℚ) / den = r →
        ∃ m' q', ofFloat (nearest num den) = finite false m' q' ∧ (m' = 0 ↔ m = 0) ∧
          showSize m' q' = showSize m q ∧
          ∀ n : Nat, (m : ℚ) * 2 ^ q = n → n < wholeBound → m' = m ∧ q' = q := by
  by_cases whole : ∃ n : Nat, (m : ℚ) * 2 ^ q = n ∧ n < wholeBound
  · obtain ⟨n, value, small⟩ := whole
    have decimal : Denotes (ofNat n) (Numeral.value (ofNat n)) :=
      .whole (ofNat_ne_nil n) fun c => isDigit_of_mem_ofNat
    rw [value_ofNat] at decimal
    refine ⟨n, showSize_of_whole value small ▸ decimal, fun num den hd same => ?_⟩
    exact ⟨m, q, ofFloat_nearest proper hd (same.trans value.symm), Iff.rfl, rfl,
      fun _ _ _ => ⟨rfl, rfl⟩⟩
  · have positive : 0 < m := by
      refine Nat.pos_of_ne_zero fun zero => whole ⟨0, ?_, by decide⟩
      rw [zero, Nat.cast_zero, zero_mul]
    obtain ⟨d, x, digits, text⟩ := exists_tenDigits whole positive plain
    have length := length_ofNat_eq digits.least digits.most
    have low := digits.low
    have some : 0 < d := (by decide : 0 < 10 ^ 9).trans_le digits.least
    have decimal := denotes_significantDigits (x := x) some length (by omega)
    refine ⟨d * 10 ^ (x - 9), text ▸ decimal, fun num den hd same => ?_⟩
    obtain ⟨m', q', parts, positive', shown⟩ := digits.exists_nearest hd same
    refine ⟨m', q', parts, by omega, shown.trans text.symm, fun n value small => ?_⟩
    exact absurd ⟨n, value, small⟩ whole

end Worksheet

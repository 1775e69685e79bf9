import Worksheet.Proofs.Numeral.Decimal
import Worksheet.Proofs.Numeral.Significant

/-!
What numbers that are set out by position stand for. Zeros at the end of the digits count for
nothing and are written again where the places call for them; so the text is a decimal for the
digits at their place (`denotes_byPosition`), and the whole numbers among them are written as whole
numbers are (`byPosition_whole`).
-/

set_option autoImplicit false
set_option relaxedAutoImplicit false

namespace Worksheet.Numeral

open Text Binary64

/-! ## Values of digits -/

private theorem foldl_value (ds : List Char) (n : Nat) :
    ds.foldl (fun n c => 10 * n + digitValue c) n = n * 10 ^ ds.length + value ds := by
  induction ds generalizing n with
  | nil => simp [value]
  | cons d ds ih =>
    rw [value, List.foldl_cons, List.foldl_cons, ih, ih (10 * 0 + digitValue d), List.length_cons,
      pow_succ]
    ring

theorem value_append (as bs : List Char) :
    value (as ++ bs) = value as * 10 ^ bs.length + value bs := by
  rw [value, List.foldl_append, foldl_value]
  rfl

@[simp] theorem value_zeros (k : Nat) : value (List.replicate k '0') = 0 := by
  induction k with
  | zero => rfl
  | succ k ih =>
    rw [List.replicate_succ', value_append, ih]
    decide

theorem isDigit_zeros (k : Nat) : ∀ c ∈ List.replicate k '0', isDigit c = true := by
  intro c hc
  rw [List.eq_of_mem_replicate hc]
  decide

/-! ## Decimals -/

/-- A decimal that starts with a digit, and the number that it stands for. -/
inductive Denotes : List Char → ℚ → Prop
  | whole {ds : List Char} (some : ds ≠ []) (digits : ∀ c ∈ ds, isDigit c = true) :
      Denotes ds (value ds)
  | point {ds fs : List Char} (some : ds ≠ []) (digits : ∀ c ∈ ds, isDigit c = true)
      (fraction : ∀ c ∈ fs, isDigit c = true) (short : fs.length ≤ 400) :
      Denotes (ds ++ '.' :: fs) (value (ds ++ fs) / 10 ^ fs.length)

theorem Denotes.isDecimal {text : List Char} {r : ℚ} (h : Denotes text r) : IsDecimal text := by
  cases h with
  | whole some digits => exact .whole some digits
  | point some digits fraction _ => exact .point (.inl some) digits fraction

private theorem nearestDecimal_neg (n : Nat) {k : Nat} (short : k ≤ 400) :
    nearestDecimal n (-k) = nearest n (10 ^ k) := by
  unfold nearestDecimal
  split
  · next zero => rw [zero, nearest, if_pos rfl]
  · have scaled : scaleBy 10 (-k) n 1 = (n, 10 ^ k) := by
      rcases Nat.eq_zero_or_pos k with rfl | some
      · simp [scaleBy]
      · rw [scaleBy, if_neg (by omega), neg_neg, Int.toNat_natCast, Nat.one_mul, Nat.pow_eq]
    rw [if_neg (by omega), if_neg (by omega), scaled]

theorem Denotes.exists_readFloat? {text : List Char} {r : ℚ} (h : Denotes text r) :
    ∃ num den : Nat, 0 < den ∧ (num : ℚ) / den = r ∧ readFloat? text = some (nearest num den) := by
  cases h with
  | @whole _ some digits =>
    refine ⟨value text, 1, Nat.one_pos, by simp, ?_⟩
    rw [readFloat?_whole some digits]
    exact congrArg _ (nearestDecimal_neg _ (Nat.zero_le 400))
  | @point ds fs some digits fraction short =>
    refine ⟨value (ds ++ fs), 10 ^ fs.length, by positivity, by push_cast; rfl, ?_⟩
    rw [readFloat?_point (.inl some) digits fraction, nearestDecimal_neg _ short]

/-! ## Significant digits -/

private theorem exists_significantDigits (n : Nat) :
    ∃ z, ofNat n = significantDigits n ++ List.replicate z '0' := by
  have split := List.takeWhile_append_dropWhile (p := (· == '0')) (l := (ofNat n).reverse)
  generalize hzs : (ofNat n).reverse.takeWhile (· == '0') = zs at split
  have zeros : zs = List.replicate zs.length '0' := by
    refine List.eq_replicate_iff.mpr ⟨rfl, fun c hc => ?_⟩
    subst hzs
    simpa using List.mem_takeWhile_imp hc
  refine ⟨zs.length, ?_⟩
  calc
    ofNat n = (zs ++ (ofNat n).reverse.dropWhile (· == '0')).reverse := by
      rw [split, List.reverse_reverse]
    _ = significantDigits n ++ zs.reverse := List.reverse_append
    _ = significantDigits n ++ List.replicate zs.length '0' := by
      conv_lhs => rw [zeros, List.reverse_replicate]

theorem isDigit_of_mem_significantDigits {n : Nat} {c : Char} (h : c ∈ significantDigits n) :
    isDigit c = true := by
  obtain ⟨z, split⟩ := exists_significantDigits n
  exact isDigit_of_mem_ofNat (split ▸ List.mem_append_left _ h)

private theorem length_significantDigits_le (n : Nat) :
    (significantDigits n).length ≤ (ofNat n).length := by
  obtain ⟨z, split⟩ := exists_significantDigits n
  rw [split, List.length_append]
  exact Nat.le_add_right _ _

private theorem value_significantDigits (n : Nat) :
    n = value (significantDigits n) * 10 ^ ((ofNat n).length - (significantDigits n).length) := by
  obtain ⟨z, split⟩ := exists_significantDigits n
  have number := value_ofNat n
  rw [split, value_append, value_zeros, List.length_replicate, Nat.add_zero] at number
  rw [split, List.length_append, List.length_replicate, Nat.add_sub_cancel_left]
  exact number.symm

theorem significantDigits_ne_nil {n : Nat} (positive : 0 < n) : significantDigits n ≠ [] := by
  intro none
  have number := value_significantDigits n
  rw [none, show value [] = 0 from rfl, Nat.zero_mul] at number
  omega

theorem getLast?_significantDigits (n : Nat) : (significantDigits n).getLast? ≠ some '0' := by
  rw [significantDigits, List.getLast?_reverse]
  intro zero
  have last := List.head?_dropWhile_not (· == '0') (Nat.toDigits 10 n).reverse
  rw [zero] at last
  exact absurd last (by decide)

private theorem ofNat_mul_pow {n : Nat} (positive : 0 < n) (k : Nat) :
    ofNat (n * 10 ^ k) = ofNat n ++ List.replicate k '0' := by
  induction k with
  | zero => simp
  | succ k ih =>
    have step := Nat.toDigits_append_toDigits (b := 10) (n := n * 10 ^ k) (d := 0) (by decide)
      (Nat.mul_pos positive (by positivity)) (by decide)
    rw [List.replicate_succ', ← List.append_assoc, ← ih, pow_succ, ← Nat.mul_assoc,
      Nat.mul_comm _ 10]
    exact step.symm

private theorem significantDigits_mul_pow {n : Nat} (positive : 0 < n) (k : Nat) :
    significantDigits (n * 10 ^ k) = significantDigits n := by
  have zeros : (List.replicate k '0').dropWhile (· == '0') = [] :=
    List.dropWhile_eq_nil_iff.mpr fun c hc => by simp [List.eq_of_mem_replicate hc]
  have numeral : Nat.toDigits 10 (n * 10 ^ k) = Nat.toDigits 10 n ++ List.replicate k '0' :=
    ofNat_mul_pow positive k
  rw [significantDigits, significantDigits, numeral, List.reverse_append, List.reverse_replicate,
    List.dropWhile_append, zeros]
  rfl

theorem length_ofNat_eq {n x : Nat} (low : 10 ^ x ≤ n) (high : n < 10 ^ (x + 1)) :
    (ofNat n).length = x + 1 := by
  refine Nat.le_antisymm (length_ofNat_le x.succ_pos high) (Nat.lt_of_not_le fun short => ?_)
  have some := List.length_pos_iff.mpr (ofNat_ne_nil n)
  have := (Nat.length_toDigits_le_iff (by decide) (some.trans_le short)).mp short
  omega

/-! ## By position -/

private theorem byPosition_of_length_le {ds : List Char} {x : Nat} (h : ds.length ≤ x + 1) :
    byPosition false ds x = ds ++ List.replicate (x + 1 - ds.length) '0' := by
  have ends : ds.drop (x + 1) = [] := List.drop_eq_nil_of_le h
  rw [byPosition, if_neg (by omega), Int.toNat_natCast]
  dsimp only
  rw [ends, List.take_of_length_le h, if_neg Bool.false_ne_true, List.append_nil]

theorem byPosition_whole {n x : Nat} (positive : 0 < n) (places : (ofNat n).length = x + 1)
    (k : Nat) : byPosition false (significantDigits (n * 10 ^ k)) x = ofNat n := by
  obtain ⟨z, split⟩ := exists_significantDigits n
  have length := congrArg List.length split
  rw [List.length_append, List.length_replicate] at length
  rw [significantDigits_mul_pow positive, byPosition_of_length_le (by omega)]
  conv_rhs => rw [split]
  congr 2
  omega

private theorem byPosition_of_lt_length {ds : List Char} {x : Nat} (h : x + 1 < ds.length) :
    byPosition false ds x = ds.take (x + 1) ++ '.' :: ds.drop (x + 1) := by
  obtain ⟨f, fs, fraction⟩ := List.exists_cons_of_ne_nil (l := ds.drop (x + 1)) fun none => by
    have := List.drop_eq_nil_iff.mp none
    omega
  rw [byPosition, if_neg (by omega), Int.toNat_natCast]
  dsimp only
  rw [fraction, Nat.sub_eq_zero_of_le h.le, List.replicate_zero, List.append_nil]

def pointText : List Char → List Char
  | [] => []
  | d :: ds => '.' :: d :: ds

theorem pointText_of_ne_nil {ds : List Char} (some : ds ≠ []) : pointText ds = '.' :: ds := by
  obtain ⟨d, ds, rfl⟩ := List.exists_cons_of_ne_nil some
  rfl

/-- The digits `whole` before a point and `fraction` after it are the digits `ds`, the first of them
worth `10 ^ x`, and zeros that fill them up to the point. -/
structure Parted (ds : List Char) (x : Int) (whole fraction : List Char) : Prop where
  some : whole ≠ []
  before : ∀ c ∈ whole, isDigit c = true
  after : ∀ c ∈ fraction, isDigit c = true
  value : (value (whole ++ fraction) : ℚ) * 10 ^ (-(fraction.length : Int)) =
    value ds * 10 ^ (x + 1 - ds.length)
  length : fraction.length = (ds.length - 1 - x).toNat
  last : fraction ≠ [] → fraction.getLast? = ds.getLast?

private theorem parted_neg {ds : List Char} (some : ds ≠ []) (digits : ∀ c ∈ ds, isDigit c = true)
    (k : Nat) : Parted ds (-(k + 1 : Nat)) ['0'] (List.replicate k '0' ++ ds) where
  some := List.cons_ne_nil _ _
  before := isDigit_zeros 1
  after := List.forall_mem_append.mpr ⟨isDigit_zeros k, digits⟩
  value := by
    have zero : value ['0'] = 0 := value_zeros 1
    have exponent : -((k + 1 : Nat) : Int) + 1 - ds.length = -((k + ds.length : Nat) : Int) := by
      omega
    rw [exponent, value_append, value_append, zero]
    simp
  length := by
    rw [List.length_append, List.length_replicate]
    omega
  last _ := List.getLast?_append_of_ne_nil _ some

private theorem parted_past {ds : List Char} (digits : ∀ c ∈ ds, isDigit c = true) {k : Nat}
    (past : k + 1 < ds.length) : Parted ds k (ds.take (k + 1)) (ds.drop (k + 1)) where
  some := by
    refine List.ne_nil_of_length_pos ?_
    rw [List.length_take]
    omega
  before c hc := digits c (List.mem_of_mem_take hc)
  after c hc := digits c (List.mem_of_mem_drop hc)
  value := by
    have exponent : -((ds.length - (k + 1) : Nat) : Int) = k + 1 - ds.length := by omega
    rw [List.take_append_drop, List.length_drop, exponent]
  length := by
    rw [List.length_drop]
    omega
  last _ := by rw [List.getLast?_drop, if_neg (by omega)]

private theorem parted_before {ds : List Char} (some : ds ≠ [])
    (digits : ∀ c ∈ ds, isDigit c = true) {k : Nat} (before : ds.length ≤ k + 1) :
    Parted ds k (ds ++ List.replicate (k + 1 - ds.length) '0') [] where
  some := by simp [some]
  before := List.forall_mem_append.mpr ⟨digits, isDigit_zeros _⟩
  after := nofun
  value := by
    have exponent : (k : Int) + 1 - ds.length = ((k + 1 - ds.length : Nat) : Int) := by omega
    rw [exponent, List.append_nil, value_append, zpow_natCast]
    simp
  length := by
    have := List.length_pos_iff.mpr some
    rw [List.length_nil]
    omega
  last none := absurd rfl none

theorem exists_parted {ds : List Char} (some : ds ≠ []) (digits : ∀ c ∈ ds, isDigit c = true)
    (x : Int) : ∃ whole fraction, Parted ds x whole fraction ∧
      byPosition false ds x = whole ++ pointText fraction := by
  rcases lt_or_ge x 0 with small | large
  · obtain ⟨k, rfl⟩ : ∃ k : Nat, x = -(k + 1 : Nat) := ⟨(-x - 1).toNat, by omega⟩
    refine ⟨_, _, parted_neg some digits k, ?_⟩
    have zeros : (-(-((k + 1 : Nat) : Int)) - 1).toNat = k := by omega
    rw [byPosition, if_pos (by omega), zeros, pointText_of_ne_nil (by simp [some])]
    rfl
  · obtain ⟨k, rfl⟩ := Int.eq_ofNat_of_zero_le large
    rcases Nat.lt_or_ge (k + 1) ds.length with past | before
    · refine ⟨_, _, parted_past digits past, ?_⟩
      rw [byPosition_of_lt_length past, pointText_of_ne_nil fun none => ?_]
      have := List.drop_eq_nil_iff.mp none
      omega
    · refine ⟨_, _, parted_before some digits before, ?_⟩
      rw [byPosition_of_length_le before, pointText, List.append_nil]

private theorem Parted.denotes {ds whole fraction : List Char} {x : Int}
    (h : Parted ds x whole fraction) (short : fraction.length ≤ 400) :
    Denotes (whole ++ pointText fraction) (Numeral.value ds * 10 ^ (x + 1 - ds.length)) := by
  rw [← h.value]
  cases fraction with
  | nil =>
    have decimal : Denotes whole (Numeral.value whole) := .whole h.some h.before
    simpa [pointText] using decimal
  | cons d fs =>
    have decimal : Denotes (whole ++ '.' :: d :: fs) _ := .point h.some h.before h.after short
    rw [div_eq_mul_inv, ← zpow_natCast, ← zpow_neg] at decimal
    exact decimal

theorem denotes_byPosition {ds : List Char} (some : ds ≠ []) (digits : ∀ c ∈ ds, isDigit c = true)
    {x : Int} (short : ds.length - x ≤ 400) :
    Denotes (byPosition false ds x) (value ds * 10 ^ (x + 1 - ds.length)) := by
  obtain ⟨whole, fraction, parted, text⟩ := exists_parted some digits x
  have length := parted.length
  rw [text]
  exact parted.denotes (by omega)

theorem significantDigits_place {d count : Nat} (length : (ofNat d).length = count + 1) (x : Int) :
    (value (significantDigits d) : ℚ) * 10 ^ (x + 1 - (significantDigits d).length) =
      d * 10 ^ (x - count) := by
  have fewer := length_significantDigits_le d
  have number := value_significantDigits d
  generalize hk : (ofNat d).length - (significantDigits d).length = k at number
  have exponent : x + 1 - ((significantDigits d).length : Int) = k + (x - count) := by omega
  have number' : (d : ℚ) = value (significantDigits d) * 10 ^ k := by exact_mod_cast number
  rw [exponent, zpow_add₀ (by norm_num), zpow_natCast, ← mul_assoc, ← number']

theorem denotes_significantDigits {d count : Nat} {x : Int} (positive : 0 < d)
    (length : (ofNat d).length = count + 1) (short : count + 1 - x ≤ 400) :
    Denotes (byPosition false (significantDigits d) x) (d * 10 ^ (x - count)) := by
  have fewer := length_significantDigits_le d
  rw [← significantDigits_place length]
  exact denotes_byPosition (significantDigits_ne_nil positive)
    (fun c => isDigit_of_mem_significantDigits) (by omega)

end Worksheet.Numeral

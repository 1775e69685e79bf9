import Worksheet.Proofs.Binary64.Status
import Worksheet.Proofs.Numeral.Correct
import Worksheet.Proofs.Redisplay

/-!
How near the shown number is. The text of a finite double is a decimal again (`Decimal.read?`): a
short whole number is shown as it is, and any other number is rounded to ten significant digits, a
half to even (`showNumber_accurate`).
-/

set_option autoImplicit false
set_option relaxedAutoImplicit false

namespace Worksheet

open Binary64 Numeral Text

/-! ## Decimals with a sign and a power of ten -/

/-- A decimal taken apart: whether a minus sign leads it, the digits before and after its point, and
the exponent of its power of ten, if it has one. -/
structure Decimal where
  negative : Bool
  whole : List Char
  fraction : List Char
  exponent : Option Int

def signFactor (negative : Bool) : ℚ := if negative then -1 else 1

@[simp] private theorem signFactor_false : signFactor false = 1 := if_neg Bool.false_ne_true

@[simp] private theorem signFactor_true : signFactor true = -1 := if_pos rfl

def Decimal.value (d : Decimal) : ℚ :=
  signFactor d.negative * (Numeral.value (d.whole ++ d.fraction) *
    10 ^ (d.exponent.getD 0 - d.fraction.length))

def Decimal.read? (text : List Char) : Option Decimal :=
  let (negative, body) := takeSign text
  let (whole, fraction, rest) := takeDecimal body
  if whole.isEmpty then none
  else if rest.isEmpty then some ⟨negative, whole, fraction, none⟩
  else (readExponent? rest).map fun e => ⟨negative, whole, fraction, some e⟩

def powerText (x : Int) : List Char :=
  'e' :: (if x < 0 then '-' else '+') ::
    (List.replicate (2 - (ofNat x.natAbs).length) '0' ++ ofNat x.natAbs)

private theorem takeDecimal_parts {whole fraction rest : List Char}
    (before : ∀ c ∈ whole, isDigit c = true) (after : ∀ c ∈ fraction, isDigit c = true)
    (ends : rest = [] ∨ ∃ cs, rest = 'e' :: cs) :
    takeDecimal (whole ++ (pointText fraction ++ rest)) = (whole, fraction, rest) := by
  have stops : rest.head?.any isDigit = false := by
    rcases ends with rfl | ⟨cs, rfl⟩
    · rfl
    · exact show isDigit 'e' = false by decide
  cases fraction with
  | nil =>
    obtain ⟨run, left⟩ := span_of_boundary before stops
    rw [pointText, List.nil_append, takeDecimal, run, left]
    rcases ends with rfl | ⟨cs, rfl⟩ <;> rfl
  | cons d ds =>
    have point : ('.' :: (d :: ds ++ rest)).head?.any isDigit = false :=
      show isDigit '.' = false by decide
    obtain ⟨run, left⟩ := span_of_boundary before point
    obtain ⟨run', left'⟩ := span_of_boundary after stops
    rw [pointText_of_ne_nil (List.cons_ne_nil d ds), List.cons_append, takeDecimal, run, left]
    simp only [run', left']

private theorem takeSign_signText {negative : Bool} {ds rest : List Char} (some : ds ≠ [])
    (digits : ∀ c ∈ ds, isDigit c = true) :
    takeSign (signText negative ++ (ds ++ rest)) = (negative, ds ++ rest) := by
  cases negative with
  | true => rfl
  | false =>
    obtain ⟨d, ds, rfl⟩ := List.exists_cons_of_ne_nil some
    have digit := digits d List.mem_cons_self
    have other (c : Char) (hc : isDigit c = false) : d ≠ c := by
      rintro rfl
      exact Bool.false_ne_true (hc.symm.trans digit)
    exact takeSign_eq _ (other '-' (by decide)) (other '+' (by decide))

private theorem Decimal.read?_parts (negative : Bool) {whole fraction rest : List Char}
    (some : whole ≠ [])
    (before : ∀ c ∈ whole, isDigit c = true) (after : ∀ c ∈ fraction, isDigit c = true)
    (ends : rest = [] ∨ ∃ cs, rest = 'e' :: cs) :
    read? (signText negative ++ (whole ++ (pointText fraction ++ rest))) =
      if rest.isEmpty then Option.some ⟨negative, whole, fraction, none⟩
      else (readExponent? rest).map fun e => ⟨negative, whole, fraction, Option.some e⟩ := by
  have full : whole.isEmpty = false := List.isEmpty_eq_false_iff.mpr some
  rw [read?, takeSign_signText some before]
  dsimp only
  rw [takeDecimal_parts before after ends]
  dsimp only
  rw [full, if_neg Bool.false_ne_true]

private theorem readExponent?_powerText (x : Int) : readExponent? (powerText x) = some x := by
  have some : List.replicate (2 - (ofNat x.natAbs).length) '0' ++ ofNat x.natAbs ≠ [] := by
    simp [ofNat_ne_nil]
  have digits : ∀ c ∈ List.replicate (2 - (ofNat x.natAbs).length) '0' ++ ofNat x.natAbs,
      isDigit c = true :=
    List.forall_mem_append.mpr ⟨isDigit_zeros _, fun c => isDigit_of_mem_ofNat⟩
  have number : value (List.replicate (2 - (ofNat x.natAbs).length) '0' ++ ofNat x.natAbs) =
      x.natAbs := by
    rw [value_append, value_zeros, value_ofNat, Nat.zero_mul, Nat.zero_add]
  have full := List.isEmpty_eq_false_iff.mpr some
  have all := List.all_eq_true.mpr digits
  unfold powerText
  generalize List.replicate (2 - (ofNat x.natAbs).length) '0' ++ ofNat x.natAbs = ds at *
  rcases lt_or_ge x 0 with negative | natural
  · have read : readExponent? ('e' :: '-' :: ds) = Option.some (-(value ds : Int)) := by
      simp [readExponent?, takeSign, full, all]
    rw [if_pos negative, read, number]
    congr 1
    omega
  · have read : readExponent? ('e' :: '+' :: ds) = Option.some (value ds : Int) := by
      simp [readExponent?, takeSign, full, all]
    rw [if_neg (by omega), read, number]
    congr 1
    omega

/-! ## Digits that are set out -/

private theorem parted_factor {d : Char} {ds : List Char}
    (digits : ∀ c ∈ d :: ds, isDigit c = true) : Parted (d :: ds) 0 [d] ds where
  some := List.cons_ne_nil d []
  before := List.forall_mem_singleton.mpr (digits d List.mem_cons_self)
  after c hc := digits c (List.mem_cons_of_mem d hc)
  value := by
    have exponent : (0 : Int) + 1 - ((d :: ds).length : Int) = -(ds.length : Int) := by
      rw [List.length_cons]
      omega
    rw [exponent, List.singleton_append]
  length := by
    rw [List.length_cons]
    omega
  last some := by
    obtain ⟨e, es, rfl⟩ := List.exists_cons_of_ne_nil some
    rfl

private theorem byPower_cons (d : Char) (ds : List Char) (x : Int) :
    byPower (d :: ds) x = [d] ++ (pointText ds ++ powerText x) := by
  cases ds <;> rfl

/-- A decimal that spells the digits `ds`, the first of them worth `10 ^ x`. -/
structure Decimal.Spells (d : Decimal) (negative : Bool) (ds : List Char) (x : Int) : Prop where
  value : d.value = signFactor negative * (Numeral.value ds * 10 ^ (x + 1 - ds.length))
  last : d.fraction ≠ [] → d.fraction.getLast? = ds.getLast?
  power : d.exponent.isSome = true ↔ x < -4 ∨ 10 ≤ x

private theorem exists_read?_write {ds : List Char} (some : ds ≠ [])
    (digits : ∀ c ∈ ds, isDigit c = true) (x : Int) (negative : Bool) :
    ∃ d, Decimal.read? (signText negative ++ displayLayout.write ds x) = Option.some d ∧
      d.Spells negative ds x := by
  by_cases place : -4 ≤ x ∧ x < 10
  · obtain ⟨whole, fraction, parted, text⟩ := exists_parted some digits x
    have read := Decimal.read?_parts negative parted.some parted.before parted.after (.inl rfl)
    have shown : displayLayout.write ds x = whole ++ (pointText fraction ++ []) := by
      rw [List.append_nil, ← text]
      exact if_pos place
    refine ⟨⟨negative, whole, fraction, none⟩, ?_, ?_, parted.last, ?_⟩
    · rw [shown, read]
      rfl
    · rw [← parted.value]
      simp [Decimal.value]
    · simp only [Option.isSome_none, Bool.false_eq_true, false_iff]
      omega
  · obtain ⟨d, ds, rfl⟩ := List.exists_cons_of_ne_nil some
    have parted := parted_factor digits
    have read := Decimal.read?_parts negative parted.some parted.before parted.after
      (.inr ⟨_, rfl⟩ : powerText x = [] ∨ ∃ cs, powerText x = 'e' :: cs)
    have shown : displayLayout.write (d :: ds) x = [d] ++ (pointText ds ++ powerText x) := by
      rw [← byPower_cons]
      exact if_neg place
    refine ⟨⟨negative, [d], ds, Option.some x⟩, ?_, ?_, parted.last, ?_⟩
    · rw [shown, read, readExponent?_powerText]
      rfl
    · have unit : (10 : ℚ) ^ (x + 1 - ((d :: ds).length : Int)) =
          10 ^ (0 + 1 - ((d :: ds).length : Int)) * 10 ^ x := by
        rw [← zpow_add₀ (by norm_num)]
        congr 1
        omega
      have unit' : (10 : ℚ) ^ (x - (ds.length : Int)) = 10 ^ (-(ds.length : Int)) * 10 ^ x := by
        rw [← zpow_add₀ (by norm_num)]
        congr 1
        omega
      rw [unit, ← mul_assoc (Numeral.value (d :: ds) : ℚ), ← parted.value, Decimal.value,
        Option.getD_some, unit', mul_assoc (Numeral.value ([d] ++ ds) : ℚ)]
    · simp only [Option.isSome_some, true_iff]
      omega

/-! ## Shown numbers -/

def Binary64.number? : Binary64 → Option ℚ
  | finite negative m q => some (signFactor negative * (m * 2 ^ q))
  | _ => none

/-- A decimal that is the number `r` in ten significant digits. -/
structure Decimal.Rounds (d : Decimal) (r : ℚ) : Prop where
  rounded : RoundedTo 10 r d.value
  near : |d.value - r| ≤ 5 * 10 ^ (-10 : Int) * |r|
  nonzero : d.value ≠ 0
  sign : d.value < 0 ↔ r < 0
  /-- No zero ends the digits after the point. -/
  fraction : d.fraction.getLast? ≠ some '0'
  /-- A power of ten is written where the first digit, after rounding, is worth less than
  `10 ^ (-4)`, or else `10 ^ 10` or more. -/
  power : ∃ x : Int, 10 ^ x ≤ |d.value| ∧ |d.value| < 10 ^ (x + 1) ∧
    (d.exponent.isSome = true ↔ x < -4 ∨ 10 ≤ x)

private theorem abs_signFactor_mul (negative : Bool) {r : ℚ} (positive : 0 ≤ r) :
    |signFactor negative * r| = r := by
  cases negative with
  | false => simp [abs_of_nonneg positive]
  | true => simp [abs_of_nonneg positive]

private theorem roundedTo_signFactor {r q : ℚ} (h : RoundedTo 10 r q) (negative : Bool) :
    RoundedTo 10 (signFactor negative * r) (signFactor negative * q) := by
  cases negative with
  | false => simpa using h
  | true => simpa using h.neg

private theorem Decimal.Spells.rounds {d : Decimal} {negative : Bool} {num den n : Nat} {x : Int}
    (hn : 0 < num) (hd : 0 < den) (rounded : roundTo 10 num den = (n, x))
    (spells : d.Spells negative (significantDigits n) x) :
    d.Rounds (signFactor negative * (num / den)) := by
  have digits := roundTo_bounds 9 hn hd
  have round := roundedTo_roundTo 9 hn hd
  rw [rounded] at digits round
  obtain ⟨least, most⟩ := digits
  have length : (ofNat n).length = 9 + 1 := length_ofNat_eq least most
  have unit : (0 : ℚ) < 10 ^ (x - (9 : Nat)) := by positivity
  have value : d.value = signFactor negative * (n * 10 ^ (x - (9 : Nat))) := by
    rw [spells.value, significantDigits_place length]
  have size : |d.value| = n * 10 ^ (x - (9 : Nat)) := by
    rw [value]
    exact abs_signFactor_mul negative (by positivity)
  have round := roundedTo_signFactor round negative
  rw [← value] at round
  obtain ⟨nonzero, sign⟩ := round.keeps_sign
  refine ⟨round, ?_, nonzero, sign, fun zero => ?_, x, ?_, ?_, spells.power⟩
  · refine round.abs_sub_le.trans (le_of_eq ?_)
    norm_num
    ring
  · by_cases some : d.fraction = []
    · rw [some] at zero
      contradiction
    · exact getLast?_significantDigits n (spells.last some ▸ zero)
  · rw [size, zpow_split 9 x]
    exact mul_le_mul_of_nonneg_right (by exact_mod_cast least) unit.le
  · have most' : (n : ℚ) < 10 ^ 9 * 10 := by exact_mod_cast most
    rw [size, zpow_add_one₀ (by norm_num), zpow_split 9 x, mul_right_comm]
    exact mul_lt_mul_of_pos_right most' unit

private theorem signText_ofNat {negative : Bool} {n : Nat} {k : Int}
    (same : signFactor negative * n = k) (nonzero : negative = true → 0 < n) :
    signText negative ++ ofNat n = ofInt k := by
  cases negative with
  | false =>
    rw [signFactor_false, one_mul] at same
    obtain rfl : (n : Int) = k := by exact_mod_cast same
    exact (ofInt_natCast n).symm
  | true =>
    rw [signFactor_true, neg_one_mul] at same
    obtain rfl : -(n : Int) = k := by exact_mod_cast same
    exact (ofInt_neg (nonzero rfl)).symm

private theorem exists_whole_iff (negative : Bool) {m : Nat} {q : Int} :
    (∃ k : Int, signFactor negative * (m * 2 ^ q) = k ∧
        |signFactor negative * (m * 2 ^ q)| < 10 ^ 15) ↔
      ∃ n : Nat, (m : ℚ) * 2 ^ q = n ∧ n < wholeBound := by
  have size : |signFactor negative * ((m : ℚ) * 2 ^ q)| = m * 2 ^ q :=
    abs_signFactor_mul negative (by positivity)
  have bound : wholeBound = 10 ^ 15 := by decide
  rw [size, bound]
  constructor
  · rintro ⟨k, same, small⟩
    have number : (m : ℚ) * 2 ^ q = k.natAbs := by
      rw [← size, same, Nat.cast_natAbs, Int.cast_abs]
    rw [number] at small
    exact ⟨k.natAbs, number, by exact_mod_cast small⟩
  · rintro ⟨n, number, small⟩
    rw [number]
    refine ⟨if negative then -n else n, ?_, by exact_mod_cast small⟩
    cases negative <;> simp

private theorem read?_numeral (negative : Bool) (n : Nat) :
    Decimal.read? (signText negative ++ ofNat n) = some ⟨negative, ofNat n, [], none⟩ := by
  have read := Decimal.read?_parts negative (ofNat_ne_nil n) (fun c => isDigit_of_mem_ofNat)
    (List.forall_mem_nil _) (.inl rfl)
  simpa [pointText] using read

private theorem exists_read?_showSize (negative : Bool) {m : Nat} {q : Int}
    (other : ¬ ∃ n : Nat, (m : ℚ) * 2 ^ q = n ∧ n < wholeBound) :
    ∃ d, Decimal.read? (signText negative ++ showSize m q) = some d ∧
      d.Rounds (signFactor negative * (m * 2 ^ q)) := by
  have positive : 0 < m := by
    refine Nat.pos_of_ne_zero fun zero => other ⟨0, ?_, by decide⟩
    rw [zero, Nat.cast_zero, zero_mul]
  have hn := quotient_fst_pos positive q
  have hd := quotient_pos m q
  have least := (roundTo_bounds 9 hn hd).1
  obtain ⟨⟨n, x⟩, rounded⟩ : ∃ r, roundTo 10 (quotient m q).1 (quotient m q).2 = r := ⟨_, rfl⟩
  rw [rounded] at least
  have some : significantDigits n ≠ [] :=
    significantDigits_ne_nil ((by decide : 0 < 10 ^ 9).trans_le least)
  obtain ⟨d, read, spells⟩ :=
    exists_read?_write some (fun c => isDigit_of_mem_significantDigits) x negative
  have rounds := spells.rounds hn hd rounded
  rw [quotient_div] at rounds
  rw [showSize_of_not_whole other, showQuotient, rounded]
  exact ⟨d, read, rounds⟩

/-- The text of a finite double is a decimal. For a whole number of fifteen digits at most it is the
numeral of that number; for any other it is the number in ten significant digits. -/
theorem showNumber_accurate {v : Float} (finite : v.isFinite = true) :
    ∃ r d, (ofFloat v).number? = some r ∧ Decimal.read? (showNumber v).toList = some d ∧
      (∀ k : Int, r = k → |r| < 10 ^ 15 → showNumber v = String.ofList (ofInt k) ∧ d.value = r) ∧
      (r = 0 → showNumber v = "0") ∧
      ((¬ ∃ k : Int, r = k ∧ |r| < 10 ^ 15) → d.Rounds r) := by
  obtain ⟨negative, m, q, parts⟩ := isFinite_iff.mp finite
  have text := showNumber_eq parts
  have number : (ofFloat v).number? = some (signFactor (negative && m != 0) * (m * 2 ^ q)) := by
    rw [parts, Binary64.number?]
    rcases Nat.eq_zero_or_pos m with rfl | positive
    · simp
    · rw [bne_iff_ne.mpr positive.ne', Bool.and_true]
  have nonzero : (negative && m != 0) = true → m ≠ 0 := by simp
  generalize (negative && m != 0) = negative at text number nonzero
  have chars : (showNumber v).toList = signText negative ++ showSize m q := by
    rw [text, String.toList_ofList]
  by_cases whole : ∃ n : Nat, (m : ℚ) * 2 ^ q = n ∧ n < wholeBound
  · have short := (exists_whole_iff negative).mpr whole
    obtain ⟨n, value, small⟩ := whole
    rw [showSize_of_whole value small] at text chars
    rw [value] at number short
    have some : negative = true → 0 < n := by
      intro minus
      refine Nat.pos_of_ne_zero fun zero => nonzero minus ?_
      have unit : (2 : ℚ) ^ q ≠ 0 := by positivity
      rw [zero, Nat.cast_zero, mul_eq_zero_iff_right unit] at value
      exact_mod_cast value
    have shown (k : Int) (same : signFactor negative * n = k) :
        showNumber v = String.ofList (ofInt k) := by
      rw [text, signText_ofNat same some]
    refine ⟨_, ⟨negative, ofNat n, [], none⟩, number, chars ▸ read?_numeral negative n,
      fun k same _ => ⟨shown k same, ?_⟩, fun zero => shown 0 (by simpa using zero),
      fun other => absurd short other⟩
    simp [Decimal.value]
  · obtain ⟨d, read, rounds⟩ := exists_read?_showSize negative whole
    have large := mt (exists_whole_iff negative).mp whole
    refine ⟨_, d, number, chars ▸ read, fun k same small => absurd ⟨k, same, small⟩ large,
      fun zero => absurd ⟨0, ?_, ?_⟩ large, fun _ => rounds⟩
    · rw [zero, Int.cast_zero]
    · rw [zero, abs_zero]
      norm_num

theorem showNumber_accurate_tie :
    (2000000003 / 2 : Float).isFinite = true ∧ showNumber (2000000003 / 2) = "1000000002" ∧
      ∃ d, Decimal.read? "1000000002".toList = some d ∧ d.Rounds (2000000003 / 2) := by
  have finite : (2000000003 / 2 : Float).isFinite = true := by decide +kernel
  have text : showNumber (2000000003 / 2) = "1000000002" := by decide +kernel
  have parts : ofFloat (2000000003 / 2) = .finite false 8388608012582912 (-23) := by decide +kernel
  obtain ⟨r, d, number, read, -, -, rounds⟩ := showNumber_accurate finite
  have value : r = 2000000003 / 2 := by
    rw [parts, Binary64.number?, signFactor_false] at number
    rw [← Option.some.inj number]
    norm_num
  rw [text] at read
  rw [value] at rounds
  refine ⟨finite, text, d, read, rounds ?_⟩
  rintro ⟨k, same, -⟩
  have twice : (2000000003 : ℚ) = (2 * k : Int) := by
    push_cast
    linarith
  have twice : (2000000003 : Int) = 2 * k := by exact_mod_cast twice
  omega

end Worksheet

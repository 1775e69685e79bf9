import Worksheet.Text.Classes

/-!
Numerals of whole numbers, quotients of natural numbers rounded to the nearest whole number or to
significant digits, and the two ways to set such digits out: by position, or as a factor and a power
of ten.
-/

set_option autoImplicit false
set_option relaxedAutoImplicit false

namespace Worksheet.Numeral

/-! ## Whole numbers -/

open Text

def value (ds : List Char) : Nat := ds.foldl (fun n c => 10 * n + digitValue c) 0

def ofNat (n : Nat) : List Char := Nat.toDigits 10 n

def ofInt (k : Int) : List Char := if k < 0 then '-' :: ofNat k.natAbs else ofNat k.natAbs

/-- The most digits that a whole number is read from or written with. -/
def digitLimit : Nat := 4300

def withinLimit (k : Int) : Bool := k.natAbs < Nat.pow 10 digitLimit

/-- The number of a run of digits that keeps to the limit; leading zeros count. -/
def ofDigits? (ds : List Char) : Option Nat :=
  if ds.length ≤ digitLimit then some (value ds) else none

/-! ## Rounding -/

/-- The whole number nearest to `a / b`, the even one of two that are equally near. -/
def roundDiv (a b : Nat) : Nat :=
  let whole := a / b
  let twice := 2 * (a % b)
  if twice < b then whole else if b < twice then whole + 1 else whole + whole % 2

def scaleBy (base : Nat) (e : Int) (a b : Nat) : Nat × Nat :=
  if 0 ≤ e then (a * Nat.pow base e.toNat, b) else (a, b * Nat.pow base (-e).toNat)

theorem roundDiv_near {a b : Nat} (hb : 0 < b) :
    2 * a ≤ 2 * (roundDiv a b * b) + b ∧ 2 * (roundDiv a b * b) ≤ 2 * a + b := by
  have hr := Nat.mod_lt a hb
  have split := Nat.div_add_mod' a b
  have up : (a / b + 1) * b = a / b * b + b := Nat.succ_mul _ _
  unfold roundDiv
  dsimp only
  split
  · omega
  · split
    · omega
    · rcases Nat.mod_two_eq_zero_or_one (a / b) with h | h <;> rw [h]
      · simp only [Nat.add_zero]; omega
      · omega

/-! ## Significant digits -/

/-- The exponent of the first digit of `num / den`: the greatest `x` with `10 ^ x ≤ num / den`. -/
def leadingPlace (num den : Nat) : Int :=
  if den ≤ num then (Nat.toDigits 10 (num / den)).length - 1
  else -(Nat.toDigits 10 ((den - 1) / num)).length

def inUnits (place : Int) (num den : Nat) : Nat × Nat := scaleBy 10 (-place) num den

/-- The quotient rounded to `count` digits, a half to even: the digits as a whole number, and the
exponent of the first of them. -/
def roundTo (count : Nat) (num den : Nat) : Nat × Int :=
  let x := leadingPlace num den
  let (a, b) := inUnits (x + 1 - count) num den
  let d := roundDiv a b
  if d = Nat.pow 10 count then (Nat.pow 10 (count - 1), x + 1) else (d, x)

def significantDigits (d : Nat) : List Char :=
  ((Nat.toDigits 10 d).reverse.dropWhile (· == '0')).reverse

structure Layout where
  /-- The least exponent of a first digit that is written by position. -/
  leastPlace : Int
  /-- The exponent of a first digit from which on a power of ten is written. -/
  powerFrom : Int
  /-- Whether a number written by position keeps a point and a zero when it is whole. -/
  keepsPoint : Bool

def byPosition (keepsPoint : Bool) (ds : List Char) (x : Int) : List Char :=
  if x < 0 then '0' :: '.' :: List.replicate (-x - 1).toNat '0' ++ ds
  else
    let places := x.toNat + 1
    let whole := ds.take places ++ List.replicate (places - ds.length) '0'
    match ds.drop places with
    | [] => whole ++ if keepsPoint then ['.', '0'] else []
    | fraction => whole ++ '.' :: fraction

/-- The digits `ds`, the first of them worth `10 ^ x`, with a power of ten whose exponent has a sign
and two digits at least. -/
def byPower (ds : List Char) (x : Int) : List Char :=
  let factor := match ds with
    | [] => []
    | [d] => [d]
    | d :: fraction => d :: '.' :: fraction
  let exponent := Nat.toDigits 10 x.natAbs
  factor ++ 'e' :: (if x < 0 then '-' else '+') ::
    (List.replicate (2 - exponent.length) '0' ++ exponent)

def Layout.write (layout : Layout) (ds : List Char) (x : Int) : List Char :=
  if layout.leastPlace ≤ x ∧ x < layout.powerFrom then byPosition layout.keepsPoint ds x
  else byPower ds x

end Worksheet.Numeral

import Worksheet.Numeral.Basic

/-!
Doubles taken apart, and the double nearest to a quotient of natural numbers. The bit patterns of
the doubles that are not negative are in the order of their values, and one step apart the values
differ by one unit in the last place; so a rounded significand is added to the pattern of its power
of two, and a carry out of the significand moves the exponent by itself.
-/

set_option autoImplicit false
set_option relaxedAutoImplicit false

namespace Worksheet

inductive Binary64
  /-- The result of an operation without a meaning. -/
  | nan
  /-- A value past the largest finite double. -/
  | infinite (negative : Bool)
  /-- The number `± m · 2 ^ q`. -/
  | finite (negative : Bool) (m : Nat) (q : Int)
deriving DecidableEq

namespace Binary64

def fractionCount : Nat := Nat.pow 2 52

def leastExponent : Int := -1074

/-- The value that a bit pattern stands for: one bit for the sign, eleven for the exponent and
fifty-two for the fraction. -/
def ofBits (bits : Nat) : Binary64 :=
  let negative := decide (bits / Nat.pow 2 63 % 2 = 1)
  let exponent := bits / fractionCount % 2048
  let fraction := bits % fractionCount
  if exponent = 2047 then if fraction = 0 then infinite negative else nan
  else if exponent = 0 then finite negative fraction leastExponent
  else finite negative (fraction + fractionCount) (leastExponent + (exponent - 1 : Nat))

def ofFloat (x : Float) : Binary64 := ofBits x.toBits.toNat

def quotient (m : Nat) (q : Int) : Nat × Nat :=
  if 0 ≤ q then (m * Nat.pow 2 q.toNat, 1) else (m, Nat.pow 2 (-q).toNat)

def whole? : Binary64 → Option Nat
  | finite _ m q =>
    let (a, b) := quotient m q
    if a % b = 0 then some (a / b) else none
  | _ => none

def isOdd (v : Binary64) : Bool := v.whole?.any (· % 2 == 1)

end Binary64

end Worksheet

namespace Worksheet.Binary64

open Numeral

def infinityBits : Nat := 2047 * fractionCount

/-- The exponent of the last place that a double near `num / den` has: such that the quotient
holds fifty-three bits above it, and no smaller than the least exponent. -/
def lastPlace (num den : Nat) : Int :=
  let q := (num.log2 : Int) - den.log2 - 53
  let (a, b) := scaleBy 2 (-q) num den
  max leastExponent (if a < b * (2 * fractionCount) then q else q + 1)

/-- The bit pattern of the double nearest to `num / den`, a half going to the even pattern. -/
def nearestBits (num den : Nat) : Nat :=
  let q := lastPlace num den
  let (a, b) := scaleBy 2 (-q) num den
  min (roundDiv a b + (q - leastExponent).toNat * fractionCount) infinityBits

def nearest (num den : Nat) : Float :=
  if num = 0 then 0 else Float.ofBits (UInt64.ofNat (nearestBits num den))

/-- The double nearest to `n · 10 ^ e`. Where the power alone decides, it is not worked out. -/
def nearestDecimal (n : Nat) (e : Int) : Float :=
  if n = 0 then 0
  else if 400 < e then Float.ofBits (UInt64.ofNat infinityBits)
  else if e + (Nat.toDigits 10 n).length < -400 then 0
  else
    let (a, b) := scaleBy 10 e n 1
    nearest a b

end Worksheet.Binary64

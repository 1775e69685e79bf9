import Worksheet.Binary64
import Worksheet.Numeral.Basic
import Worksheet.Text.Classes

/-!
Numerals written by hand, and the fewest digits that read back. Blanks around a numeral do not
count, a sign may lead it, and single low lines may part its digits. `readInt?` reads whole numbers
and `readFloat?` the double nearest to a decimal, both with digits of any script.
-/

set_option autoImplicit false
set_option relaxedAutoImplicit false

namespace Worksheet.Numeral

/-! ## Reading -/

open Text Binary64

/-- Whether a blank may stand around a numeral: the four separators of ASCII may not. -/
def isMargin (c : Char) : Bool := isBlank c && !('\x1c' ≤ c && c ≤ '\x1f')

/-- The text without its low lines, each of which must stand between two digits. The first argument
says whether a digit came just before. -/
def joinGroups? : Bool → List Char → Option (List Char)
  | _, [] => some []
  | afterDigit, c :: cs =>
    if c = '_' then
      if afterDigit && cs.head?.any isDigit then joinGroups? false cs else none
    else (joinGroups? (isDigit c) cs).map (c :: ·)

def takeSign : List Char → Bool × List Char
  | '-' :: cs => (true, cs)
  | '+' :: cs => (false, cs)
  | cs => (false, cs)

def readInt? (text : List Char) : Option Int := do
  let cs ← joinGroups? false (trimBoth isMargin text)
  let (negative, ds) := takeSign cs
  if ds.isEmpty || !ds.all isDigit then none
  else
    let n ← ofDigits? ds
    return if negative then -(n : Int) else n

def readExponent? : List Char → Option Int
  | [] => some 0
  | c :: cs =>
    if c = 'e' ∨ c = 'E' then
      let (negative, ds) := takeSign cs
      if ds.isEmpty || !ds.all isDigit then none
      else some (if negative then -(value ds : Int) else value ds)
    else none

def takeDecimal (cs : List Char) : List Char × List Char × List Char :=
  let whole := cs.takeWhile isDigit
  match cs.dropWhile isDigit with
  | '.' :: rest => (whole, rest.takeWhile isDigit, rest.dropWhile isDigit)
  | rest => (whole, [], rest)

def readMagnitude? (cs : List Char) : Option Float :=
  let word := String.ofList (cs.map Char.toLower)
  if word = "inf" ∨ word = "infinity" then some (Float.ofBits (UInt64.ofNat infinityBits))
  else if word = "nan" then some (0 / 0)
  else
    let (whole, fraction, rest) := takeDecimal cs
    if whole.isEmpty && fraction.isEmpty then none
    else (readExponent? rest).map fun e =>
      nearestDecimal (value (whole ++ fraction)) (e - fraction.length)

def readFloat? (text : List Char) : Option Float := do
  let cs ← joinGroups? false (trimBoth isMargin text)
  let (negative, body) := takeSign cs
  let x ← readMagnitude? body
  return if negative then -x else x

/-! ## Shortest digits -/

/-- With `count` digits: the decimal next to `num / den` that reads back as `x`, if there is one, as
a whole number and the exponent of its last digit. -/
def readingBack? (x : Float) (num den count : Nat) : Option (Nat × Int) :=
  let place := leadingPlace num den + 1 - count
  let (a, b) := inUnits place num den
  let below := a / b
  let near := roundDiv a b
  let far := if near = below then below + 1 else below
  if nearestDecimal near place == x then some (near, place)
  else if nearestDecimal far place == x then some (far, place)
  else none

def shortestDigits (x : Float) (num den : Nat) : List Char × Int :=
  match (List.range 17).findSome? fun k => readingBack? x num den (k + 1) with
  | some (d, place) => (significantDigits d, place + (Nat.toDigits 10 d).length - 1)
  | none =>
    let (d, lead) := roundTo 17 num den
    (significantDigits d, lead)

/-- The shortest text of a double: by position from ten thousandths up to sixteen places, and with
a point in any case. -/
def shortestLayout : Layout := ⟨-4, 16, true⟩

def shortest (x : Float) : List Char :=
  match ofFloat x with
  | .nan => "nan".toList
  | .infinite negative => if negative then "-inf".toList else "inf".toList
  | .finite negative m q =>
    let sign := if negative then ['-'] else []
    if m = 0 then sign ++ "0.0".toList
    else
      let (num, den) := quotient m q
      let (ds, lead) := shortestDigits x.abs num den
      sign ++ shortestLayout.write ds lead

end Worksheet.Numeral

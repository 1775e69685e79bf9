import Worksheet.Binary64
import Worksheet.Expr
import Worksheet.Outcome

/-!
The operations of a worksheet on doubles. Sums, differences and products may overflow to an
infinity; a quotient by zero, a power without a finite value and the root of a negative number are
faults.
-/

set_option autoImplicit false
set_option relaxedAutoImplicit false

namespace Worksheet

namespace Arithmetic

def divide (a b : Float) : Except Fault Float :=
  if b == 0 then
    .error (if a == 0 then .notANumber else .infinite (decide (a < 0)))
  else .ok (a / b)

/-- The size of a number that is zero or infinite, with its sign kept under an odd exponent. -/
def signedLimit (odd : Bool) (a : Float) : Float := if odd then a else a.abs

/-- The power `a ^ b`. Anything to the power of zero is one, and so is one to any power. Zero to a
negative power and a power past the largest double are infinite, a negative number to a power that
is no whole number has no meaning; a base or an exponent that is not finite gives the limit. -/
def power (a b : Float) : Except Fault Float :=
  let odd := (Binary64.ofFloat b).isOdd
  if b == 0 || a == 1 then .ok 1
  else if a.isNaN then .ok a
  else if b.isNaN then .ok b
  else if b.isInf then
    .ok (if a.abs == 1 then 1 else if decide (0 < b) == decide (1 < a.abs) then b.abs else 0)
  else if a.isInf then
    .ok (if 0 < b then signedLimit odd a else signedLimit odd (1 / a))
  else if a == 0 then
    if 0 < b then .ok (signedLimit odd a) else .error (.infinite false)
  else
    let r := a.pow b
    if r.isNaN then .error .notANumber
    else if r.isInf then .error (.infinite (decide (a < 0) && odd))
    else .ok r

end Arithmetic

def BinaryOp.apply : BinaryOp → Float → Float → Except Fault Float
  | .add, a, b => .ok (a + b)
  | .subtract, a, b => .ok (a - b)
  | .multiply, a, b => .ok (a * b)
  | .divide, a, b => Arithmetic.divide a b
  | .power, a, b => Arithmetic.power a b

inductive Builtin
  | sqrt
deriving DecidableEq, Repr

namespace Builtin

/-- A letter in upper case, as far as names of functions need it: the long s is an S too. -/
def upper (c : Char) : Char := if c = 'ſ' then 'S' else c.toUpper

def named? (name : String) : Option Builtin :=
  if name.toList.map upper = ['S', 'Q', 'R', 'T'] then some .sqrt else none

def apply : Builtin → Float → Except Fault Float
  | sqrt, a => if a < 0 then .error .notANumber else .ok a.sqrt

end Builtin

end Worksheet

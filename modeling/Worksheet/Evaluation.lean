import Worksheet.Arithmetic
import Worksheet.Expr
import Worksheet.Outcome
import Worksheet.Scope

/-!
The value of an expression in a scope. `Expr.eval` walks the tree from the left and hands the scope
on from each part to the next; `Expr.evaluate` turns what it gives into an outcome, and a line that
fails leaves the scope as it was.
-/

set_option autoImplicit false
set_option relaxedAutoImplicit false

namespace Worksheet

/-- The value of an expression and the scope after it. The number bounds the height of the tree. -/
def Expr.eval : Expr → Nat → Scope → Except Fault (Float × Scope)
  | _, 0, _ => .error .tooDeep
  | .number v, _ + 1, s => .ok (v, s)
  | .binary op left right, d + 1, s => do
    let (a, s) ← left.eval d s
    let (b, s) ← right.eval d s
    let v ← op.apply a b
    .ok (v, s)
  | .neg operand, d + 1, s => do
    let (a, s) ← operand.eval d s
    .ok (-a, s)
  | .percent operand, d + 1, s => do
    let (a, s) ← operand.eval d s
    .ok (a / 100, s)
  | .percentOf operand base, d + 1, s => do
    let (a, s) ← operand.eval d s
    let (b, s) ← base.eval d s
    .ok (b * (a / 100), s)
  | .var name, _ + 1, s =>
    match s.variableValue? name with
    | some v => .ok (v, s)
    | none => .error (.unboundName name)
  | .line n, _ + 1, s =>
    match s.lineValue? n with
    | some v => .ok (v, s)
    | none => .error (.unboundLine n)
  | .assign name value, d + 1, s => do
    let (a, s) ← value.eval d s
    .ok (a, s.bind name a)
  | .call function argument, d + 1, s =>
    match Builtin.named? function with
    | none => .error (.unknownFunction function)
    | some f => do
      let (a, s) ← argument.eval d s
      let v ← f.apply a
      .ok (v, s)

/-- The bound on the height of an expression. Like `nestingLimit` it stands for an interpreter that
is set to a thousand nested calls, without those around the evaluation. -/
def heightLimit : Nat := 1000

def Expr.evaluate (e : Expr) (s : Scope) : Outcome × Scope :=
  match e.eval heightLimit s with
  | .ok (v, after) => if v.isFinite then (.value v, after) else (.failure (.ofValue v), s)
  | .error why => (.failure why, s)

def Parse.evaluate (p : Parse) (s : Scope) : Outcome × Scope :=
  match p with
  | .tree e => e.evaluate s
  | .refused why _ => (.failure (.refused why), s)
  | .empty => (.blank, s)

def evaluateText (text : String) (s : Scope) : Outcome × Scope := (parseText text).evaluate s

end Worksheet

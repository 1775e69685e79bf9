import Worksheet.Proofs.Evaluation.Frame

/-!
Percentages of a running value. A sum can be worked out as it is written, from the left to the
right with the value so far at hand: a percentage among its operands counts for that part of the
value so far. No percentage needs a base then, and no part is worked out twice. Lines have the same
outcome either way (`evaluate_eq_written`).
-/

set_option autoImplicit false
set_option relaxedAutoImplicit false

namespace Worksheet

mutual

/-- An expression as it is written. A sum is a chain of operands, and no percentage has a base. -/
inductive Written
  | number (value : Float)
  | chain (first : Written) (rest : Addends)
  | binary (op : BinaryOp) (left right : Written)
  | neg (operand : Written)
  | percent (operand : Written)
  | var (name : String)
  | line (number : Int)
  | call (function : String) (argument : Written)

inductive Addends
  | done
  | next (op : BinaryOp) (operand : Written) (rest : Addends)

end

mutual

def Written.value (s : Scope) : Written → Except Fault Float
  | .number v => .ok v
  | .chain first rest => do
    let v ← first.value s
    rest.walk s v
  | .binary op left right => do
    let a ← left.value s
    let b ← right.value s
    op.apply a b
  | .neg operand => do
    let a ← operand.value s
    .ok (-a)
  | .percent operand => do
    let q ← operand.value s
    .ok (q / 100)
  | .var name =>
    match s.variableValue? name with
    | some v => .ok v
    | none => .error (.unboundName name)
  | .line n =>
    match s.lineValue? n with
    | some v => .ok v
    | none => .error (.unboundLine n)
  | .call function argument =>
    match Builtin.named? function with
    | none => .error (.unknownFunction function)
    | some f => do
      let a ← argument.value s
      f.apply a

def Addends.walk (s : Scope) (v : Float) : Addends → Except Fault Float
  | .done => .ok v
  | .next op operand rest => do
    let b ← (match operand with
      | .percent share => do
        let q ← share.value s
        .ok (v * (q / 100))
      | other => other.value s)
    let v ← op.apply v b
    rest.walk s v

end

/-- The outcome of a line as it is written, and the scope for the next line. The value goes to the
variable that the line assigns, if there is one. -/
def Written.evaluate (target : Option String) (w : Written) (s : Scope) : Outcome × Scope :=
  match w.value s with
  | .ok v => if v.isFinite then (.value v, s.assign target v) else (.failure (.ofValue v), s)
  | .error why => (.failure why, s)

def Addends.concat (op : BinaryOp) (operand : Written) : Addends → Addends
  | .done => .next op operand .done
  | .next op' operand' rest => .next op' operand' (rest.concat op operand)

def Written.addTo (op : BinaryOp) (left right : Written) : Written :=
  match left with
  | .chain first rest => .chain first (rest.concat op right)
  | first => .chain first (.next op right .done)

/-- The expression as it is written, with the bases of percentages taken off and the variable that
it assigns left out. -/
def Expr.written : Expr → Written
  | .number v => .number v
  | .binary op left right =>
    if op.isAdditive then left.written.addTo op right.written
    else .binary op left.written right.written
  | .neg operand => .neg operand.written
  | .percent operand => .percent operand.written
  | .percentOf operand _ => .percent operand.written
  | .var name => .var name
  | .line n => .line n
  | .assign _ value => value.written
  | .call function argument => .call function argument.written

/-! ## A sum and its last operand -/

variable {s : Scope}

/-- What an operand of a sum counts for where the operands before it make `v`. -/
private def Written.beside (s : Scope) (v : Float) (w : Written) : Except Fault Float :=
  match w with
  | .percent share => do
    let q ← share.value s
    .ok (v * (q / 100))
  | other => other.value s

private theorem Addends.walk_next (op : BinaryOp) (operand : Written) (rest : Addends) (v : Float) :
    (Addends.next op operand rest).walk s v = (do
      let b ← operand.beside s v
      let v ← op.apply v b
      rest.walk s v) := by
  cases operand <;> rfl

private theorem Addends.walk_concat (op : BinaryOp) (operand : Written) :
    ∀ (rest : Addends) (v : Float), (rest.concat op operand).walk s v = (do
      let v ← rest.walk s v
      let b ← operand.beside s v
      op.apply v b)
  | .done, v => by
    rw [Addends.concat, Addends.walk_next]
    exact bind_congr fun b => bind_pure (op.apply v b)
  | .next op' operand' rest, v => by
    rw [Addends.concat, Addends.walk_next, Addends.walk_next]
    simp only [Addends.walk_concat op operand rest, bind_assoc]

private theorem Written.value_addTo (op : BinaryOp) (left right : Written) :
    (left.addTo op right).value s = (do
      let v ← left.value s
      let b ← right.beside s v
      op.apply v b) := by
  cases left with
  | chain first rest =>
    rw [Written.addTo, Written.value, Written.value]
    simp only [Addends.walk_concat, bind_assoc]
  | _ => exact bind_congr fun v => Addends.walk_concat op right .done v

private theorem Written.beside_addTo (op : BinaryOp) (left right : Written) (v : Float) :
    (left.addTo op right).beside s v = (left.addTo op right).value s := by
  cases left <;> rfl

private theorem Expr.Formed.beside_written {e : Expr} (h : e.Formed)
    (plain : ∀ operand, e ≠ .percent operand) (v : Float) :
    e.written.beside s v = e.written.value s := by
  cases h with
  | percent _ => exact absurd rfl (plain _)
  | binary hop _ _ => rw [Expr.written, hop]; rfl
  | sum hop _ _ _ => rw [Expr.written, hop]; exact Written.beside_addTo _ _ _ v
  | share hop _ _ => rw [Expr.written, hop]; exact Written.beside_addTo _ _ _ v
  | _ => rfl

theorem Expr.Formed.value_written {e : Expr} (h : e.Formed) : e.written.value s = e.value s := by
  induction h with
  | number v => rfl
  | var name => rfl
  | line _ _ => rfl
  | neg _ ih => rw [Expr.written, Written.value, Expr.value, ih]
  | percent _ ih => rw [Expr.written, Written.value, Expr.value, ih]
  | sqrt _ ih => exact congrArg (· >>= Builtin.sqrt.apply) ih
  | binary hop _ _ ihl ihr =>
    rw [Expr.written, hop, Expr.value, ← ihl, ← ihr]
    rfl
  | sum hop _ hr plain ihl ihr =>
    rw [Expr.written, hop, if_pos rfl, Written.value_addTo, Expr.value, ihl]
    simp only [hr.beside_written plain, ihr]
  | @share op left operand hop _ _ ihl iho =>
    rw [Expr.written, hop, if_pos rfl, Written.value_addTo, Expr.value, Expr.value, ihl]
    cases value : left.value s with
    | error why => rfl
    | ok v =>
      show (operand.written.value s >>= fun q => .ok (v * (q / 100))) >>= op.apply v = _
      rw [iho]
      rfl

private theorem DerivesLine.value_written {xs : List Lexeme} {e : Expr} (line : DerivesLine xs e)
    (s : Scope) : e.written.value s = e.value s := by
  cases line with
  | sum h => exact h.formed.value_written
  | assign _ _ h => exact h.formed.value_written

/-- A line has one outcome, worked out by its tree or as it is written, unless the tree is too high
to be worked out. -/
theorem evaluate_eq_written {text : String} {e : Expr} (parsed : parseText text = .tree e)
    {s : Scope} (shallow : (e.evaluate s).1 ≠ .failure .tooDeep) :
    e.evaluate s = e.written.evaluate e.target? s := by
  have line := derives_of_parseText parsed
  have steps := line.yields s heightLimit
  rw [Written.evaluate, line.value_written]
  unfold Expr.evaluate at shallow ⊢
  generalize e.eval heightLimit s = x at steps shallow ⊢
  cases steps with
  | tooDeep => exact absurd rfl shallow
  | done => cases e.value s <;> rfl

theorem evaluate_discount_written :
    let raised : Expr := .binary .add (.number 200) (.percentOf (.number 10) (.number 200))
    let e : Expr := .binary .subtract raised (.percentOf (.number 50) raised)
    parseText "200 + 10% - 50%" = .tree e ∧ (e.evaluate .empty).1 = .value 110 ∧
      e.evaluate .empty = e.written.evaluate e.target? .empty := by
  intro raised e
  have parsed : parseText "200 + 10% - 50%" = .tree e := by decide +kernel
  have value : (e.evaluate .empty).1 = .value 110 := by decide +kernel
  exact ⟨parsed, value, evaluate_eq_written parsed (by rw [value]; nofun)⟩

end Worksheet

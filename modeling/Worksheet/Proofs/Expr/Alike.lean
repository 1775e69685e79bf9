import Mathlib.Data.List.Forall2
import Mathlib.Data.Option.Basic
import Worksheet.Expr
import Worksheet.Proofs.Lockstep

/-!
Texts that differ in the numbers of their references alone. Given a relation `R` on numbers, lists
of marks that are alike up to it are read in lockstep: both are refused at the same mark, or both
give expressions that are alike up to it (`readAll_alike`).
-/

set_option autoImplicit false
set_option relaxedAutoImplicit false

namespace Worksheet

variable {R : Int → Int → Prop}

/-- Marks of one kind with one text; of references only the numbers count, which both have, in `R`,
or both lack. -/
structure Lexeme.Alike (R : Int → Int → Prop) (x y : Lexeme) : Prop where
  kind : y.kind = x.kind
  text : x.kind ≠ .lineRef → y.text = x.text
  number : x.kind = .lineRef → Option.Rel R (lineNumber? x.text) (lineNumber? y.text)

inductive Expr.Alike (R : Int → Int → Prop) : Expr → Expr → Prop
  | number (v : Float) : Alike R (.number v) (.number v)
  | binary {a b a' b' : Expr} (op : BinaryOp) (ha : Alike R a a') (hb : Alike R b b') :
      Alike R (.binary op a b) (.binary op a' b')
  | neg {a a' : Expr} (ha : Alike R a a') : Alike R (.neg a) (.neg a')
  | percent {a a' : Expr} (ha : Alike R a a') : Alike R (.percent a) (.percent a')
  | percentOf {a b a' b' : Expr} (ha : Alike R a a') (hb : Alike R b b') :
      Alike R (.percentOf a b) (.percentOf a' b')
  | var (name : String) : Alike R (.var name) (.var name)
  | line {k k' : Int} (h : R k k') : Alike R (.line k) (.line k')
  | assign {a a' : Expr} (name : String) (ha : Alike R a a') :
      Alike R (.assign name a) (.assign name a')
  | call {a a' : Expr} (function : String) (ha : Alike R a a') :
      Alike R (.call function a) (.call function a')

inductive SyntaxError.Alike (R : Int → Int → Prop) : SyntaxError → SyntaxError → Prop
  | same (why : SyntaxError) : Alike R why why
  | unexpected {x y : Lexeme} (h : x.Alike R y) : Alike R (.unexpected x.text) (.unexpected y.text)
  | lineOutOfRange {x y : Lexeme} (h : x.Alike R y) :
      Alike R (.lineOutOfRange x.text) (.lineOutOfRange y.text)

structure Refusal.Alike (R : Int → Int → Prop) (r r' : Refusal) : Prop where
  why : r.why.Alike R r'.why
  rest : List.Forall₂ (Lexeme.Alike R) r.rest r'.rest

def ReadAlike (R : Int → Int → Prop) (r r' : Expr × List Lexeme) : Prop :=
  r.1.Alike R r'.1 ∧ List.Forall₂ (Lexeme.Alike R) r.2 r'.2

abbrev Reading.Alike (R : Int → Int → Prop) : Reading → Reading → Prop :=
  Lockstep (Refusal.Alike R) (ReadAlike R)

private theorem Expr.Alike.addTo {a b a' b' : Expr} (op : BinaryOp) (ha : a.Alike R a')
    (hb : b.Alike R b') : (Expr.addTo op a b).Alike R (Expr.addTo op a' b') := by
  cases hb with
  | percent hb => exact .binary op ha (.percentOf hb ha)
  | number v => exact .binary op ha (.number v)
  | binary op' hb hc => exact .binary op ha (.binary op' hb hc)
  | neg hb => exact .binary op ha (.neg hb)
  | percentOf hb hc => exact .binary op ha (.percentOf hb hc)
  | var name => exact .binary op ha (.var name)
  | line h => exact .binary op ha (.line h)
  | assign name hb => exact .binary op ha (.assign name hb)
  | call function hb => exact .binary op ha (.call function hb)

private theorem readChain_alike (op? : TokenKind → Option BinaryOp)
    {join : BinaryOp → Expr → Expr → Expr} {operand : List Lexeme → Reading}
    (operands : ∀ {xs ys}, List.Forall₂ (Lexeme.Alike R) xs ys →
      Reading.Alike R (operand xs) (operand ys))
    (joined : ∀ {a b a' b'} op, Expr.Alike R a a' → Expr.Alike R b b' →
      Expr.Alike R (join op a b) (join op a' b'))
    (n : Nat) {left left' : Expr} {xs ys : List Lexeme} (hleft : left.Alike R left')
    (h : List.Forall₂ (Lexeme.Alike R) xs ys) :
    Reading.Alike R (readChain op? join operand n left xs)
      (readChain op? join operand n left' ys) := by
  induction n generalizing left left' xs ys with
  | zero =>
    cases h with
    | nil => exact .ok ⟨hleft, .nil⟩
    | cons hx hs => exact .ok ⟨hleft, .cons hx hs⟩
  | succ n ih =>
    cases h with
    | nil => exact .ok ⟨hleft, .nil⟩
    | cons hx hs =>
      rw [readChain, readChain, hx.kind]
      cases op? _ with
      | none => exact .ok ⟨hleft, .cons hx hs⟩
      | some op => exact (operands hs).bind fun _ _ hr => ih (joined op hleft hr.1) hr.2

private theorem closeParen_alike {a a' : Expr} {xs ys : List Lexeme} (ha : a.Alike R a')
    (h : List.Forall₂ (Lexeme.Alike R) xs ys) :
    Reading.Alike R (closeParen a xs) (closeParen a' ys) := by
  cases h with
  | nil => exact .error ⟨.same _, .nil⟩
  | cons hx hs =>
    rw [closeParen, closeParen, hx.kind]
    split
    · exact .ok ⟨ha, hs⟩
    · exact .error ⟨.same _, .cons hx hs⟩

theorem read_alike (d : Nat) : ∀ (p : Phrase) {xs ys : List Lexeme},
    List.Forall₂ (Lexeme.Alike R) xs ys →
      Reading.Alike R (Phrase.read d p xs) (Phrase.read d p ys) := by
  induction d with
  | zero => exact fun p xs ys h => .error ⟨.same _, h⟩
  | succ d ih =>
    intro p xs ys h
    cases p with
    | sum =>
      refine (ih .product h).bind ?_
      rintro ⟨a, xs⟩ ⟨a', ys⟩ ⟨ha, hs⟩
      dsimp only
      rw [hs.length_eq]
      exact readChain_alike additive? (ih .product) Expr.Alike.addTo _ ha hs
    | product =>
      refine (ih .percent h).bind ?_
      rintro ⟨a, xs⟩ ⟨a', ys⟩ ⟨ha, hs⟩
      dsimp only
      rw [hs.length_eq]
      exact readChain_alike multiplicative? (ih .percent) Expr.Alike.binary _ ha hs
    | percent =>
      refine (ih .power h).bind ?_
      rintro ⟨a, xs⟩ ⟨a', ys⟩ ⟨ha, hs⟩
      cases hs with
      | nil => exact .ok ⟨ha, .nil⟩
      | cons hx hs =>
        dsimp only
        rw [hx.kind]
        split
        · exact .ok ⟨.percent ha, hs⟩
        · exact .ok ⟨ha, .cons hx hs⟩
    | power =>
      refine (ih .unary h).bind ?_
      rintro ⟨a, xs⟩ ⟨a', ys⟩ ⟨ha, hs⟩
      cases hs with
      | nil => exact .ok ⟨ha, .nil⟩
      | cons hx hs =>
        dsimp only
        rw [hx.kind]
        split
        · exact (ih .power hs).bind fun _ _ hr => .ok ⟨.binary .power ha hr.1, hr.2⟩
        · exact .ok ⟨ha, .cons hx hs⟩
    | unary =>
      cases h with
      | nil => exact ih .primary .nil
      | cons hx hs =>
        rw [Phrase.read, Phrase.read, hx.kind]
        split
        · exact (ih .unary hs).bind fun _ _ hr => .ok ⟨.neg hr.1, hr.2⟩
        · exact ih .primary (.cons hx hs)
    | primary =>
      cases h with
      | nil => exact .error ⟨.same _, .nil⟩
      | @cons x y xs ys hx hs =>
        simp only [Phrase.read, hx.kind]
        cases hk : x.kind with
        | number =>
          rw [hx.text (by simp [hk])]
          cases Numeral.readFloat? x.text.toList with
          | none => exact .error ⟨.same _, .cons hx hs⟩
          | some v => exact .ok ⟨.number v, hs⟩
        | name =>
          rw [hx.text (by simp [hk])]
          exact .ok ⟨.var x.text, hs⟩
        | lineRef =>
          have number := hx.number hk
          generalize lineNumber? x.text = n, lineNumber? y.text = n' at number ⊢
          cases number with
          | none => exact .error ⟨.lineOutOfRange hx, .cons hx hs⟩
          | some h => exact .ok ⟨.line h, hs⟩
        | leftParen => exact (ih .sum hs).bind fun _ _ hr => closeParen_alike hr.1 hr.2
        | sqrt =>
          cases hs with
          | nil => exact .error ⟨.same _, .nil⟩
          | cons hy hs =>
            dsimp only
            rw [hy.kind]
            split
            · exact (ih .sum hs).bind fun _ _ hr => closeParen_alike (.call "sqrt" hr.1) hr.2
            · exact .error ⟨.same _, .cons hy hs⟩
        | stop => exact .error ⟨.same _, .cons hx hs⟩
        | invalid =>
          rw [hx.text (by simp [hk])]
          exact .error ⟨.same _, .cons hx hs⟩
        | _ =>
          exact .error ⟨.unexpected hx, .cons hx hs⟩

private theorem readLine_alike {xs ys : List Lexeme} (h : List.Forall₂ (Lexeme.Alike R) xs ys) :
    Reading.Alike R (readLine xs) (readLine ys) := by
  cases h with
  | nil => exact read_alike nestingLimit .sum .nil
  | @cons x x' xs ys hx hs =>
    cases hs with
    | nil => exact read_alike nestingLimit .sum (.cons hx .nil)
    | cons hy hs =>
      rw [readLine, readLine, hx.kind, hy.kind]
      split
      · next assigns =>
        rw [hx.text (by simp [assigns.1])]
        exact (read_alike nestingLimit .sum hs).bind fun _ _ hr => .ok ⟨.assign x.text hr.1, hr.2⟩
      · exact read_alike nestingLimit .sum (.cons hx (.cons hy hs))

theorem readAll_alike {xs ys : List Lexeme} (h : List.Forall₂ (Lexeme.Alike R) xs ys) :
    Lockstep (Refusal.Alike R) (Expr.Alike R) (readAll xs) (readAll ys) := by
  refine (readLine_alike h).bind ?_
  rintro ⟨a, xs⟩ ⟨a', ys⟩ ⟨ha, hs⟩
  cases hs with
  | nil => exact .ok ha
  | cons hx hs =>
    dsimp only
    rw [hx.kind]
    split
    · exact .ok ha
    · exact .error ⟨.unexpected hx, .cons hx hs⟩

end Worksheet

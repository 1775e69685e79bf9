import Worksheet.Numeral.Reading
import Worksheet.Outcome
import Worksheet.Token

/-!
Expressions, the trees that lines of a worksheet stand for, and how they are read from tokens, by
the grammar

    line    ::= name "=" sum | sum
    sum     ::= product (("+" | "-") product)*
    product ::= percent (("*" | "/") percent)*
    percent ::= power "%"?
    power   ::= unary ("^" power)?
    unary   ::= "-" unary | primary
    primary ::= number | name | lineRef | "(" sum ")" | sqrt "(" sum ")"

The offsets of the tokens play no part in it: the phrases are read from lexemes, and a refusal keeps
the lexemes from the offending one on, from which its offset is found at the end.
-/

set_option autoImplicit false
set_option relaxedAutoImplicit false

namespace Worksheet

inductive BinaryOp
  | add | subtract | multiply | divide | power
deriving DecidableEq, Repr

inductive Expr
  | number (value : Float)
  | binary (op : BinaryOp) (left right : Expr)
  | neg (operand : Expr)
  /-- A percentage on its own: hundredths. -/
  | percent (operand : Expr)
  /-- A percentage of a base, as in a sum where it refers to all that stands to its left. -/
  | percentOf (operand base : Expr)
  | var (name : String)
  | line (number : Int)
  | assign (name : String) (value : Expr)
  | call (function : String) (argument : Expr)
deriving DecidableEq

/-- The right operand of a sum or difference beside its left side: a percentage on its own takes the
left side for its base, all else stays as it is. -/
def Expr.relativeTo (right left : Expr) : Expr :=
  match right with
  | .percent operand => .percentOf operand left
  | e => e

/-! ## Parsing -/

inductive Phrase
  | sum | product | percent | power | unary | primary
deriving DecidableEq, Repr

structure Refusal where
  why : SyntaxError
  rest : List Lexeme

abbrev Reading := Except Refusal (Expr × List Lexeme)

def additive? : TokenKind → Option BinaryOp
  | .plus => some .add
  | .minus => some .subtract
  | _ => none

def multiplicative? : TokenKind → Option BinaryOp
  | .times => some .multiply
  | .divide => some .divide
  | _ => none

def Expr.addTo (op : BinaryOp) (left right : Expr) : Expr :=
  .binary op left (right.relativeTo left)

/-- The greatest number that a reference may have, that of a signed word of thirty-two bits. -/
def maxLine : Int := 2147483647

def lineNumber? (text : String) : Option Int :=
  (Numeral.readInt? text.toList).filter fun k => 1 ≤ k && k ≤ maxLine

/-- The rest of a chain of operands, grouped from the left: as long as an operation comes next, one
more operand is read and joined. The number bounds the operations. -/
def readChain (op? : TokenKind → Option BinaryOp) (join : BinaryOp → Expr → Expr → Expr)
    (operand : List Lexeme → Reading) : Nat → Expr → List Lexeme → Reading
  | _, left, [] => .ok (left, [])
  | 0, left, x :: xs => .ok (left, x :: xs)
  | n + 1, left, x :: xs =>
    match op? x.kind with
    | none => .ok (left, x :: xs)
    | some op => do
      let (right, rest) ← operand xs
      readChain op? join operand n (join op left right) rest

def closeParen (e : Expr) : List Lexeme → Reading
  | [] => .error ⟨.missingParen, []⟩
  | x :: xs => if x.kind = .rightParen then .ok (e, xs) else .error ⟨.missingParen, x :: xs⟩

/-- A phrase at the front of the lexemes. Each phrase within a phrase takes one from the bound on
nesting; a chain takes none for its length. -/
def Phrase.read : Nat → Phrase → List Lexeme → Reading
  | 0, _, xs => .error ⟨.tooDeep, xs⟩
  | d + 1, .sum, xs => do
    let (first, rest) ← read d .product xs
    readChain additive? Expr.addTo (read d .product) rest.length first rest
  | d + 1, .product, xs => do
    let (first, rest) ← read d .percent xs
    readChain multiplicative? Expr.binary (read d .percent) rest.length first rest
  | d + 1, .percent, xs => do
    let (e, rest) ← read d .power xs
    match rest with
    | [] => .ok (e, [])
    | x :: rest => if x.kind = .percent then .ok (.percent e, rest) else .ok (e, x :: rest)
  | d + 1, .power, xs => do
    let (base, rest) ← read d .unary xs
    match rest with
    | [] => .ok (base, [])
    | x :: rest =>
      if x.kind = .power then do
        let (exponent, rest) ← read d .power rest
        .ok (.binary .power base exponent, rest)
      else .ok (base, x :: rest)
  | d + 1, .unary, [] => read d .primary []
  | d + 1, .unary, x :: xs =>
    if x.kind = .minus then do
      let (e, rest) ← read d .unary xs
      .ok (.neg e, rest)
    else read d .primary (x :: xs)
  | _ + 1, .primary, [] => .error ⟨.endOfInput, []⟩
  | d + 1, .primary, x :: xs =>
    match x.kind with
    | .number =>
      match Numeral.readFloat? x.text.toList with
      | some v => .ok (.number v, xs)
      | none => .error ⟨.unreadableNumber x.text, x :: xs⟩
    | .name => .ok (.var x.text, xs)
    | .lineRef =>
      match lineNumber? x.text with
      | some k => .ok (.line k, xs)
      | none => .error ⟨.lineOutOfRange x.text, x :: xs⟩
    | .leftParen => do
      let (e, rest) ← read d .sum xs
      closeParen e rest
    | .sqrt =>
      match xs with
      | [] => .error ⟨.missingArgument, []⟩
      | y :: ys =>
        if y.kind = .leftParen then do
          let (e, rest) ← read d .sum ys
          closeParen (.call "sqrt" e) rest
        else .error ⟨.missingArgument, y :: ys⟩
    | .stop => .error ⟨.endOfInput, x :: xs⟩
    | .invalid => .error ⟨.invalid x.text, x :: xs⟩
    | _ => .error ⟨.unexpected x.text, x :: xs⟩

/-- The bound on nesting, of which a parenthesis takes six and a sign or a power one. It stands for
an interpreter that is set to a thousand nested calls and starts with none: calls around the reading
of a line are not counted. -/
def nestingLimit : Nat := 1000

def readSum : List Lexeme → Reading := Phrase.read nestingLimit .sum

def readLine : List Lexeme → Reading
  | x :: y :: xs =>
    if x.kind = .name ∧ y.kind = .equals then do
      let (e, rest) ← readSum xs
      .ok (.assign x.text e, rest)
    else readSum (x :: y :: xs)
  | xs => readSum xs

def readAll (xs : List Lexeme) : Except Refusal Expr := do
  let (e, rest) ← readLine xs
  match rest with
  | [] => .ok e
  | x :: rest => if x.kind = .stop then .ok e else .error ⟨.unexpected x.text, x :: rest⟩

inductive Parse
  | tree (expr : Expr)
  | refused (why : SyntaxError) (position : Int)
  /-- There is nothing but the end of the line. -/
  | empty
deriving DecidableEq

/-- The offset of the token with as many after it and itself as the number says; past the end, that
of the last token. -/
def offsetFromEnd (tokens : List Token) (count : Nat) : Int :=
  match tokens.drop (tokens.length - count) with
  | t :: _ => t.position
  | [] => (tokens.getLast?.map Token.position).getD 0

def isVacant : List Lexeme → Bool
  | [] => true
  | [x] => x.kind == .stop
  | _ => false

def parse (tokens : List Token) : Parse :=
  let xs := tokens.map Token.toLexeme
  if isVacant xs then .empty
  else match readAll xs with
  | .ok e => .tree e
  | .error r => .refused r.why (offsetFromEnd tokens r.rest.length)

def parseText (text : String) : Parse := parse (tokenize text)

end Worksheet

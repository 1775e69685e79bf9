import Worksheet.Proofs.Expr.Grammar

/-!
What stands where in the tree of a line. An assignment is the whole tree; a percentage has a base
just where it is the right operand of a sum or difference, and the base is then the left operand;
references are lines and functions are known. All of it holds at every place, also inside of bases
(`parse_wellFormed`).
-/

set_option autoImplicit false
set_option relaxedAutoImplicit false

namespace Worksheet

/-! ## The trees of the grammar -/

def BinaryOp.isAdditive : BinaryOp → Bool
  | .add | .subtract => true
  | .multiply | .divide | .power => false

inductive Expr.Formed : Expr → Prop
  | number (v : Float) : Formed (.number v)
  | var (name : String) : Formed (.var name)
  | line {k : Int} (low : 1 ≤ k) (high : k ≤ maxLine) : Formed (.line k)
  | neg {operand : Expr} (h : Formed operand) : Formed (.neg operand)
  | percent {operand : Expr} (h : Formed operand) : Formed (.percent operand)
  | sqrt {argument : Expr} (h : Formed argument) : Formed (.call "sqrt" argument)
  | binary {op : BinaryOp} {left right : Expr} (hop : op.isAdditive = false) (hl : Formed left)
      (hr : Formed right) : Formed (.binary op left right)
  | sum {op : BinaryOp} {left right : Expr} (hop : op.isAdditive = true) (hl : Formed left)
      (hr : Formed right) (plain : ∀ operand, right ≠ .percent operand) :
      Formed (.binary op left right)
  /-- A percentage of all that stands to its left. -/
  | share {op : BinaryOp} {left operand : Expr} (hop : op.isAdditive = true) (hl : Formed left)
      (ho : Formed operand) : Formed (.binary op left (.percentOf operand left))

private theorem Expr.Formed.addTo {op : BinaryOp} (hop : op.isAdditive = true) {left right : Expr}
    (hl : left.Formed) (hr : right.Formed) : (Expr.addTo op left right).Formed := by
  cases right with
  | percent operand =>
    cases hr with
    | percent ho => exact .share hop hl ho
  | _ => exact .sum hop hl hr nofun

private theorem isAdditive_of_additive? {k : TokenKind} {op : BinaryOp}
    (h : additive? k = some op) : op.isAdditive = true := by
  unfold additive? at h
  split at h
  · obtain rfl := Option.some.inj h; rfl
  · obtain rfl := Option.some.inj h; rfl
  · contradiction

private theorem isAdditive_of_multiplicative? {k : TokenKind} {op : BinaryOp}
    (h : multiplicative? k = some op) : op.isAdditive = false := by
  unfold multiplicative? at h
  split at h
  · obtain rfl := Option.some.inj h; rfl
  · obtain rfl := Option.some.inj h; rfl
  · contradiction

private theorem lineNumber?_bounds {text : String} {k : Int} (h : lineNumber? text = some k) :
    1 ≤ k ∧ k ≤ maxLine := by
  obtain ⟨-, inside⟩ := Option.filter_eq_some_iff.mp h
  simpa using inside

theorem Derives.formed {p : Phrase} {xs : List Lexeme} {e : Expr} (h : Derives p xs e) :
    e.Formed := by
  induction h with
  | product _ ih => exact ih
  | factor _ ih => exact ih
  | power _ ih => exact ih
  | unary _ ih => exact ih
  | primary _ ih => exact ih
  | add _ hx _ ihl ihr => exact .addTo (isAdditive_of_additive? hx) ihl ihr
  | multiply _ hx _ ihl ihr => exact .binary (isAdditive_of_multiplicative? hx) ihl ihr
  | percent _ _ ih => exact .percent ih
  | raise _ _ _ ihb ihe => exact .binary rfl ihb ihe
  | neg _ _ ih => exact .neg ih
  | number _ _ => exact .number _
  | name _ => exact .var _
  | line _ hk => exact .line (lineNumber?_bounds hk).1 (lineNumber?_bounds hk).2
  | paren _ _ _ ih => exact ih
  | sqrt _ _ _ _ ih => exact .sqrt ih

def Expr.AssignFree : Expr → Prop
  | .number _ | .var _ | .line _ => True
  | .binary _ left right => left.AssignFree ∧ right.AssignFree
  | .neg operand | .percent operand => operand.AssignFree
  | .percentOf operand base => operand.AssignFree ∧ base.AssignFree
  | .assign _ _ => False
  | .call _ argument => argument.AssignFree

private theorem Expr.Formed.assignFree {e : Expr} (h : e.Formed) : e.AssignFree := by
  induction h with
  | number v => trivial
  | var name => trivial
  | line _ _ => trivial
  | neg _ ih => exact ih
  | percent _ ih => exact ih
  | sqrt _ ih => exact ih
  | binary _ _ _ ihl ihr => exact ⟨ihl, ihr⟩
  | sum _ _ _ _ ihl ihr => exact ⟨ihl, ihr⟩
  | share _ _ _ ihl iho => exact ⟨ihl, iho, ihl⟩

theorem Derives.assignFree {p : Phrase} {xs : List Lexeme} {e : Expr} (h : Derives p xs e) :
    e.AssignFree :=
  h.formed.assignFree

/-! ## Places in a tree -/

namespace Expr

inductive Place
  | root
  | left (op : BinaryOp) (right : Expr)
  /-- It is the right operand of an operation, with `left` beside it. -/
  | right (op : BinaryOp) (left : Expr)
  /-- It is part of any other expression. -/
  | inner

inductive Occurs (tree : Expr) : Place → Expr → Prop
  | root : Occurs tree .root tree
  | left {place : Place} {op : BinaryOp} {left right : Expr}
      (h : Occurs tree place (.binary op left right)) : Occurs tree (.left op right) left
  | right {place : Place} {op : BinaryOp} {left right : Expr}
      (h : Occurs tree place (.binary op left right)) : Occurs tree (.right op left) right
  | negated {place : Place} {operand : Expr} (h : Occurs tree place (.neg operand)) :
      Occurs tree .inner operand
  | hundredths {place : Place} {operand : Expr} (h : Occurs tree place (.percent operand)) :
      Occurs tree .inner operand
  | share {place : Place} {operand base : Expr} (h : Occurs tree place (.percentOf operand base)) :
      Occurs tree .inner operand
  | base {place : Place} {operand base : Expr} (h : Occurs tree place (.percentOf operand base)) :
      Occurs tree .inner base
  | assigned {place : Place} {name : String} {value : Expr}
      (h : Occurs tree place (.assign name value)) : Occurs tree .inner value
  | argument {place : Place} {function : String} {argument : Expr}
      (h : Occurs tree place (.call function argument)) : Occurs tree .inner argument

/-- A tree in which everything stands where it may. -/
structure WellFormed (tree : Expr) : Prop where
  assign : ∀ place name value, tree.Occurs place (.assign name value) → place = .root
  percent : ∀ place operand, tree.Occurs place (.percent operand) →
    ∀ op left, op.isAdditive = true → place ≠ .right op left
  percentOf : ∀ place operand base, tree.Occurs place (.percentOf operand base) →
    ∃ op, op.isAdditive = true ∧ place = .right op base
  line : ∀ place k, tree.Occurs place (.line k) → 1 ≤ k ∧ k ≤ maxLine
  call : ∀ place function argument, tree.Occurs place (.call function argument) →
    function = "sqrt"

inductive Fits : Place → Expr → Prop
  | formed {place : Place} {e : Expr} (h : e.Formed)
      (plain : ∀ op left operand, op.isAdditive = true → place = .right op left →
        e ≠ .percent operand) : Fits place e
  | share {op : BinaryOp} {left operand : Expr} (hop : op.isAdditive = true) (hl : left.Formed)
      (ho : operand.Formed) : Fits (.right op left) (.percentOf operand left)
  | assign {name : String} {value : Expr} (h : value.Formed) : Fits .root (.assign name value)

namespace Fits

variable {place : Place} {e operand base left right : Expr} {op : BinaryOp}

private theorem inner (h : e.Formed) : Fits .inner e := .formed h nofun

private theorem left_of_binary (h : Fits place (.binary op left right)) :
    Fits (.left op right) left := by
  cases h with
  | formed h _ =>
    cases h with
    | binary _ hl _ => exact .formed hl nofun
    | sum _ hl _ _ => exact .formed hl nofun
    | share _ hl _ => exact .formed hl nofun

private theorem right_of_binary (h : Fits place (.binary op left right)) :
    Fits (.right op left) right := by
  cases h with
  | formed h _ =>
    cases h with
    | binary hop _ hr =>
      refine .formed hr fun op' _ _ hop' same => ?_
      obtain ⟨rfl, -⟩ := Place.right.inj same
      exact absurd (hop'.symm.trans hop) Bool.noConfusion
    | sum _ _ hr plain => exact .formed hr fun _ _ operand _ _ => plain operand
    | share hop hl ho => exact .share hop hl ho

private theorem of_neg (h : Fits place (.neg operand)) : operand.Formed := by
  cases h with
  | formed h _ => cases h with | neg h => exact h

private theorem of_percent (h : Fits place (.percent operand)) : operand.Formed := by
  cases h with
  | formed h _ => cases h with | percent h => exact h

private theorem of_percentOf (h : Fits place (.percentOf operand base)) :
    operand.Formed ∧ base.Formed ∧ ∃ op, op.isAdditive = true ∧ place = .right op base := by
  cases h with
  | formed h _ => exact nomatch h
  | share hop hl ho => exact ⟨ho, hl, _, hop, rfl⟩

private theorem of_assign {name : String} {value : Expr} (h : Fits place (.assign name value)) :
    value.Formed ∧ place = .root := by
  cases h with
  | formed h _ => exact nomatch h
  | assign h => exact ⟨h, rfl⟩

private theorem of_call {function : String} {argument : Expr}
    (h : Fits place (.call function argument)) : argument.Formed ∧ function = "sqrt" := by
  cases h with
  | formed h _ => cases h with | sqrt h => exact ⟨h, rfl⟩

private theorem of_occurs {tree : Expr} (root : Fits .root tree) (h : tree.Occurs place e) :
    Fits place e := by
  induction h with
  | root => exact root
  | left _ ih => exact ih.left_of_binary
  | right _ ih => exact ih.right_of_binary
  | negated _ ih => exact .inner ih.of_neg
  | hundredths _ ih => exact .inner ih.of_percent
  | share _ ih => exact .inner ih.of_percentOf.1
  | base _ ih => exact .inner ih.of_percentOf.2.1
  | assigned _ ih => exact .inner ih.of_assign.1
  | argument _ ih => exact .inner ih.of_call.1

private theorem wellFormed {tree : Expr} (root : Fits .root tree) : tree.WellFormed where
  assign _ _ _ h := (root.of_occurs h).of_assign.2
  percent place operand h op left hop same := by
    cases root.of_occurs h with
    | formed _ plain => exact plain op left operand hop same rfl
  percentOf _ _ _ h := (root.of_occurs h).of_percentOf.2.2
  line _ _ h := by
    cases root.of_occurs h with
    | formed h _ => cases h with | line low high => exact ⟨low, high⟩
  call _ _ _ h := (root.of_occurs h).of_call.2

end Fits

end Expr

private theorem DerivesLine.fits {xs : List Lexeme} {e : Expr} (line : DerivesLine xs e) :
    Expr.Fits .root e := by
  cases line with
  | sum h => exact .formed h.formed nofun
  | assign _ _ h => exact .assign h.formed

theorem derivesLine_of_parse {tokens : List Token} {e : Expr} (parsed : parse tokens = .tree e) :
    ∃ body, DerivesLine body e := by
  rw [parse] at parsed
  split at parsed
  · contradiction
  · split at parsed
    · next read =>
      obtain rfl := Parse.tree.inj parsed
      obtain ⟨body, _, -, line, -⟩ := readAll_eq_ok read
      exact ⟨body, line⟩
    · contradiction

/-- The tree of a line is well formed, whatever tokens it was parsed from. -/
theorem parse_wellFormed {tokens : List Token} {e : Expr} (parsed : parse tokens = .tree e) :
    e.WellFormed := by
  obtain ⟨body, line⟩ := derivesLine_of_parse parsed
  exact line.fits.wellFormed

theorem parse_wellFormed_nested :
    let raised : Expr := .binary .add (.line 1) (.percentOf (.number 10) (.line 1))
    let e : Expr := .assign "x" (.binary .subtract raised (.percentOf (.number 50) raised))
    parse (tokenize "$x = ($1 + (10%)) - 50%") = .tree e ∧ e.WellFormed := by
  intro raised e
  have parsed : parse (tokenize "$x = ($1 + (10%)) - 50%") = .tree e := by decide +kernel
  exact ⟨parsed, parse_wellFormed parsed⟩

end Worksheet

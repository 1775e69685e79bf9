import Worksheet.Proofs.Evaluation.Alike
import Worksheet.Proofs.References

/-!
What is found in the marks of a text is what its tree mentions, in the same order: the references
are the lines of the tree, and the names its variables, after the one that it assigns. What the base
of a percentage mentions stands to the left of the percentage (`parseText_mentions`).
-/

set_option autoImplicit false
set_option relaxedAutoImplicit false

namespace Worksheet

variable {P Q : Mention → Prop}

def Mention.line? : Mention → Option Int
  | .line k => some k
  | .name _ => none

def Mention.name? : Mention → Option String
  | .name x => some x
  | .line _ => none

def Lexeme.name? (x : Lexeme) : Option String :=
  if x.kind = .name then some x.text else none

/-- The expression `part` stands in another one, and `before` is all that is mentioned to its left.
The base of a percentage stands where the left side does of which it is a copy. -/
inductive Expr.StandsIn (part : Expr) : List Mention → Expr → Prop
  | here : StandsIn part [] part
  | left {before : List Mention} {op : BinaryOp} {left right : Expr}
      (h : StandsIn part before left) : StandsIn part before (.binary op left right)
  | right {before : List Mention} {op : BinaryOp} {left right : Expr}
      (h : StandsIn part before right) :
      StandsIn part (left.mentions ++ before) (.binary op left right)
  | neg {before : List Mention} {operand : Expr} (h : StandsIn part before operand) :
      StandsIn part before (.neg operand)
  | percent {before : List Mention} {operand : Expr} (h : StandsIn part before operand) :
      StandsIn part before (.percent operand)
  | share {before : List Mention} {operand base : Expr} (h : StandsIn part before operand) :
      StandsIn part before (.percentOf operand base)
  | base {before : List Mention} {op : BinaryOp} {left operand base : Expr}
      (h : StandsIn part before base) :
      StandsIn part before (.binary op left (.percentOf operand base))
  | value {before : List Mention} {name : String} {value : Expr} (h : StandsIn part before value) :
      StandsIn part before (.assign name value)
  | argument {before : List Mention} {function : String} {argument : Expr}
      (h : StandsIn part before argument) : StandsIn part before (.call function argument)

private theorem Expr.Reads.mono {e : Expr} (h : e.Reads P) (imp : ∀ m, P m → Q m) : e.Reads Q := by
  induction e with
  | number v => trivial
  | binary op _ _ ihl ihr => exact ⟨ihl h.1, ihr h.2⟩
  | neg _ ih => exact ih h
  | percent _ ih => exact ih h
  | percentOf _ _ iho ihb => exact ⟨iho h.1, ihb h.2⟩
  | var name => exact imp _ h
  | line k => exact imp _ h
  | assign name _ ih => exact ih h
  | call function _ ih => exact ih h

/-! ## Bases -/

private theorem Expr.Formed.ne_percentOf {e : Expr} (h : e.Formed) (operand base : Expr) :
    e ≠ .percentOf operand base := by
  cases h <;> exact nofun

private theorem Expr.Formed.base_reads {e : Expr} (h : e.Formed) {before : List Mention}
    {operand base : Expr} (stands : (Expr.percentOf operand base).StandsIn before e) :
    base.Reads (· ∈ before) := by
  induction h generalizing before with
  | number v => cases stands
  | var name => cases stands
  | line _ _ => cases stands
  | neg _ ih =>
    cases stands with
    | neg stands => exact ih stands
  | percent _ ih =>
    cases stands with
    | percent stands => exact ih stands
  | sqrt _ ih =>
    cases stands with
    | argument stands => exact ih stands
  | binary _ _ hr ihl ihr =>
    cases stands with
    | left stands => exact ihl stands
    | right stands => exact (ihr stands).mono fun m => List.mem_append_right _
    | base _ => exact absurd rfl (hr.ne_percentOf _ _)
  | sum _ _ hr _ ihl ihr =>
    cases stands with
    | left stands => exact ihl stands
    | right stands => exact (ihr stands).mono fun m => List.mem_append_right _
    | base _ => exact absurd rfl (hr.ne_percentOf _ _)
  | share _ hl _ ihl iho =>
    cases stands with
    | left stands => exact ihl stands
    | right stands =>
      cases stands with
      | here => exact hl.reads fun m hm => List.mem_append_left _ hm
      | share stands => exact (iho stands).mono fun m => List.mem_append_right _
    | base stands => exact ihl stands

private theorem DerivesLine.base_reads {xs : List Lexeme} {e : Expr} (line : DerivesLine xs e)
    {before : List Mention} {operand base : Expr}
    (stands : (Expr.percentOf operand base).StandsIn before e) : base.Reads (· ∈ before) := by
  cases line with
  | sum h => exact h.formed.base_reads stands
  | assign _ _ h =>
    cases stands with
    | value stands => exact h.formed.base_reads stands

/-! ## References and names -/

private theorem DerivesLine.filterMap_withoutTarget {α : Type} {xs : List Lexeme} {e : Expr}
    (line : DerivesLine xs e) {f : Lexeme → Option α} (name : ∀ x, x.kind = .name → f x = none)
    (equals : ∀ x, x.kind = .equals → f x = none) :
    (withoutTarget xs).filterMap f = xs.filterMap f := by
  cases line with
  | sum h => rw [withoutTarget_eq_self fun x hx => (h.inner x hx).ne_equals]
  | @assign xs x y e hx hy _ =>
    rw [withoutTarget, if_pos ⟨hx, hy⟩, List.filterMap_cons_none (name x hx),
      List.filterMap_cons_none (equals y hy)]

private theorem DerivesLine.mentioned_lines {text : String} {e : Expr}
    (line : DerivesLine (lexemes text) e) :
    e.mentions.filterMap Mention.line? = (lineReferences text).map Int.ofNat := by
  have mark (x : Lexeme) (hx : x ∈ lexemes text) :
      x.mention?.bind Mention.line? = x.reference?.map Int.ofNat := by
    unfold Lexeme.mention?
    split
    · next hk => rw [Lexeme.reference?, if_neg (by simp [hk])]; rfl
    · next hk =>
      obtain ⟨k, number⟩ := (line.legible x hx).number hk
      obtain ⟨n, rfl, reference⟩ := reference?_of_lineNumber? hx hk number
      rw [number, reference]
      rfl
    · next other => rw [Lexeme.reference?, if_neg other]; rfl
  have silent {k : TokenKind} (hk : k ≠ .lineRef) (x : Lexeme) (hx : x.kind = k) :
      x.mention?.bind Mention.line? = none := by
    unfold Lexeme.mention?
    split
    · rfl
    · next h => exact absurd (hx.symm.trans h) hk
    · rfl
  rw [line.mentions, List.filterMap_filterMap,
    line.filterMap_withoutTarget (silent (by decide)) (silent (by decide)),
    List.filterMap_congr mark, lineReferences_eq, List.map_filterMap]

private theorem DerivesLine.mentioned_names {xs : List Lexeme} {e : Expr}
    (line : DerivesLine xs e) :
    e.target?.toList ++ e.mentions.filterMap Mention.name? = xs.filterMap Lexeme.name? := by
  have mark (x : Lexeme) : x.mention?.bind Mention.name? = x.name? := by
    unfold Lexeme.mention? Lexeme.name?
    split
    · next hk => rw [if_pos hk]; rfl
    · next hk => rw [if_neg (by simp [hk])]; cases lineNumber? x.text <;> rfl
    · next other _ => rw [if_neg other]; rfl
  have sum {ys : List Lexeme} {e : Expr} (h : Derives .sum ys e) :
      e.mentions.filterMap Mention.name? = ys.filterMap Lexeme.name? := by
    rw [h.mentions, List.filterMap_filterMap, List.filterMap_congr fun x _ => mark x]
  cases line with
  | sum h =>
    rw [h.target?_eq_none, sum h]
    rfl
  | @assign ys x y e hx hy h =>
    have target : x.name? = some x.text := if_pos hx
    have equals : y.name? = none := if_neg (by simp [hy])
    rw [List.filterMap_cons_some target, List.filterMap_cons_none equals, ← sum h]
    rfl

/-- The references and names among the marks of a text are what its tree mentions, and what a base
mentions stands to the left of its percentage. -/
theorem parseText_mentions {text : String} {e : Expr} (parsed : parseText text = .tree e) :
    e.mentions.filterMap Mention.line? = (lineReferences text).map Int.ofNat ∧
      e.target?.toList ++ e.mentions.filterMap Mention.name? =
        (scan text).filterMap (fun t => t.toLexeme.name?) ∧
      ∀ before operand base, (Expr.percentOf operand base).StandsIn before e →
        base.Reads (· ∈ before) := by
  have line := derives_of_parseText parsed
  refine ⟨line.mentioned_lines, ?_, fun _ _ _ stands => line.base_reads stands⟩
  rw [line.mentioned_names, ← map_scan, List.filterMap_map]
  rfl

theorem parseText_mentions_share :
    let left : Expr := .binary .add (.line 2) (.var "x")
    let e : Expr := .assign "x" (.binary .add left (.percentOf (.var "y") left))
    parseText "$x = $02 + $x + $y%" = .tree e ∧
      e.mentions = [.line 2, .name "x", .name "y"] ∧
      lineReferences "$x = $02 + $x + $y%" = [2] ∧
      (scan "$x = $02 + $x + $y%").filterMap (fun t => t.toLexeme.name?) = ["x", "x", "y"] ∧
      left.Reads (· ∈ [.line 2, .name "x"]) := by
  intro left e
  have parsed : parseText "$x = $02 + $x + $y%" = .tree e := by decide +kernel
  obtain ⟨lines, names, bases⟩ := parseText_mentions parsed
  have base := bases (left.mentions ++ []) (.var "y") left (.value (.right .here))
  refine ⟨parsed, rfl, ?_, names.symm, base⟩
  exact List.map_injective_iff.mpr (fun _ _ => Int.ofNat.inj) lines.symm

end Worksheet

import Mathlib.Logic.Equiv.Basic
import Worksheet.Proofs.Expr.Refusal
import Worksheet.Proofs.References

/-!
Renumbering and parsing. A renumbered text is parsed to the renumbered tree, or refused at the same
mark for the same cause (`parseText_renumber`), where the new numbers are lines just when the old
ones are.
-/

set_option autoImplicit false
set_option relaxedAutoImplicit false

namespace Worksheet

variable {f : Nat → Nat}

/-- The expression with every reference to `k` made one to `f k`, also in the base of a
percentage. -/
def Expr.renumber (f : Nat → Nat) : Expr → Expr
  | .number v => .number v
  | .binary op left right => .binary op (left.renumber f) (right.renumber f)
  | .neg operand => .neg (operand.renumber f)
  | .percent operand => .percent (operand.renumber f)
  | .percentOf operand base => .percentOf (operand.renumber f) (base.renumber f)
  | .var name => .var name
  | .line k => .line (f k.toNat)
  | .assign name value => .assign name (value.renumber f)
  | .call function argument => .call function (argument.renumber f)

inductive SyntaxError.Renumbered (x y : Lexeme) : SyntaxError → SyntaxError → Prop
  | same (why : SyntaxError) : Renumbered x y why why
  | unexpected (hx : x.kind = .lineRef) : Renumbered x y (.unexpected x.text) (.unexpected y.text)
  | lineOutOfRange (hx : x.kind = .lineRef) :
      Renumbered x y (.lineOutOfRange x.text) (.lineOutOfRange y.text)

/-- What tokens are parsed to, beside what their renumbered tokens are parsed to. Refusals are at
the same place in both lists. -/
inductive Parse.Renumbered (f : Nat → Nat) (ts us : List Token) : Parse → Parse → Prop
  | empty : Renumbered f ts us .empty .empty
  | tree (e : Expr) : Renumbered f ts us (.tree e) (.tree (e.renumber f))
  | refused {i : Nat} {t u : Token} {why why' : SyntaxError} (ht : ts[i]? = some t)
      (hu : us[i]? = some u) (mark : t.toLexeme.Renumbered f u.toLexeme)
      (cause : why.Renumbered t.toLexeme u.toLexeme why') :
      Renumbered f ts us (.refused why t.position) (.refused why' u.position)

structure Lexeme.RenumberedInRange (f : Nat → Nat) (x y : Lexeme) : Prop where
  mark : x.Renumbered f y
  alike : x.Alike (fun k k' => k' = f k.toNat) y

private theorem Expr.Alike.eq_renumber {e e' : Expr} (h : e.Alike (fun k k' => k' = f k.toNat) e') :
    e' = e.renumber f := by
  induction h with
  | number v => rfl
  | binary op _ _ iha ihb => rw [iha, ihb, renumber]
  | neg _ ih => rw [ih, renumber]
  | percent _ ih => rw [ih, renumber]
  | percentOf _ _ iha ihb => rw [iha, ihb, renumber]
  | var name => rfl
  | line h => rw [h, renumber]
  | assign name _ ih => rw [ih, renumber]
  | call function _ ih => rw [ih, renumber]

private theorem isVacant_congr {R : Lexeme → Lexeme → Prop} {xs ys : List Lexeme}
    (kind : ∀ x y, R x y → y.kind = x.kind) (h : List.Forall₂ R xs ys) :
    isVacant ys = isVacant xs := by
  cases h with
  | nil => rfl
  | cons hx hs =>
    cases hs with
    | nil => rw [isVacant, isVacant, kind _ _ hx]
    | cons hy hs => rfl

private theorem exists_offsetFromEnd {ts : List Token} {rest : List Lexeme} (marks : ts ≠ [])
    (suffix : rest <:+ ts.map Token.toLexeme) :
    ∃ t, ts[min (ts.length - rest.length) (ts.length - 1)]? = some t ∧
      offsetFromEnd ts rest.length = t.position ∧ ∀ x xs, rest = x :: xs → t.toLexeme = x := by
  cases rest with
  | nil =>
    have ht := List.getLast?_eq_some_getLast marks
    generalize ts.getLast marks = t at ht
    refine ⟨t, ?_, ?_, nofun⟩
    · rw [List.length_nil, Nat.sub_zero, Nat.min_eq_right (Nat.sub_le _ _),
        ← List.getLast?_eq_getElem?, ht]
    · rw [offsetFromEnd, List.length_nil, Nat.sub_zero, List.drop_length, ht]
      rfl
  | cons x xs =>
    obtain ⟨front, split⟩ := suffix
    obtain ⟨before, after, rfl, -, hafter⟩ := List.map_eq_append_iff.mp split.symm
    obtain ⟨t, more, rfl, rfl, rfl⟩ := List.map_eq_cons_iff.mp hafter
    refine ⟨t, ?_, ?_, fun z zs h => (List.cons.inj h).1⟩
    · have place : (before ++ t :: more).length -
          (t.toLexeme :: more.map Token.toLexeme).length = before.length := by
        simp
      rw [place, Nat.min_eq_left (by simp), List.getElem?_append_right (Nat.le_refl _),
        Nat.sub_self, List.getElem?_cons_zero]
    · rw [List.length_cons, List.length_map, offsetFromEnd_append]

private theorem cause_renumbered {x y : Lexeme} {why why' : SyntaxError} {rest rest' : List Lexeme}
    (alike : why.Alike (fun k k' => k' = f k.toNat) why') (mark : x.Renumbered f y)
    (blames : why.Blames rest) (blames' : why'.Blames rest')
    (first : ∀ z zs, rest = z :: zs → x = z) (first' : ∀ z zs, rest' = z :: zs → y = z) :
    why.Renumbered x y why' := by
  cases alike with
  | same why => exact .same why
  | unexpected h =>
    rw [blames.text_unexpected first, blames'.text_unexpected first']
    by_cases hx : x.kind = .lineRef
    · exact .unexpected hx
    · rw [mark.same (if_neg hx)]
      exact .same _
  | lineOutOfRange h =>
    obtain ⟨hx, text⟩ := blames.text_lineOutOfRange first
    rw [text, (blames'.text_lineOutOfRange first').2]
    exact .lineOutOfRange hx

/-- Tokens and their renumbered tokens are parsed alike. -/
theorem parse_renumbered {ts us : List Token}
    (h : List.Forall₂ (Lexeme.RenumberedInRange f) (ts.map Token.toLexeme)
      (us.map Token.toLexeme)) :
    Parse.Renumbered f ts us (parse ts) (parse us) := by
  have length : us.length = ts.length := by simpa using h.length_eq.symm
  rw [parse, parse, isVacant_congr (fun _ _ hx => hx.mark.kind) h]
  split
  · exact .empty
  · next full =>
    have marks : ts ≠ [] := fun none => full (by rw [none]; rfl)
    have marks' : us ≠ [] := fun none => marks (by simpa [none] using length.symm)
    have within := readAll_within (ts.map Token.toLexeme)
    have within' := readAll_within (us.map Token.toLexeme)
    have steps := readAll_alike (h.imp fun _ _ hx => hx.alike)
    generalize readAll (ts.map Token.toLexeme) = r, readAll (us.map Token.toLexeme) = r'
      at steps within within' ⊢
    cases steps with
    | @ok e e' he =>
      rw [he.eq_renumber]
      exact .tree e
    | @error r r' hr =>
      obtain ⟨blames, suffix⟩ := within.of_error
      obtain ⟨blames', suffix'⟩ := within'.of_error
      obtain ⟨t, ht, position, first⟩ := exists_offsetFromEnd marks suffix
      obtain ⟨u, hu, position', first'⟩ := exists_offsetFromEnd marks' suffix'
      rw [length, ← hr.rest.length_eq] at hu
      have mark : t.toLexeme.RenumberedInRange f u.toLexeme := by
        obtain ⟨y, hy, pair⟩ := exists_getElem?_of_forall₂ h
          (by rw [List.getElem?_map, ht, Option.map_some])
        rw [List.getElem?_map, hu, Option.map_some] at hy
        exact Option.some.inj hy ▸ pair
      dsimp only
      rw [position, position']
      exact .refused ht hu mark.mark
        (cause_renumbered hr.why mark.mark blames blames' first first')

private theorem TextRenumbered.inRange {text text' : String} (h : TextRenumbered f text text')
    (lines : ∀ k : Nat, 1 ≤ f k ∧ (f k : Int) ≤ maxLine ↔ 1 ≤ k ∧ (k : Int) ≤ maxLine) :
    List.Forall₂ (Lexeme.RenumberedInRange f) (lexemes text) (lexemes text') := by
  refine (forall₂_mem h).imp fun x y ⟨hx, hy, mark⟩ =>
    ⟨mark, mark.kind, fun other => by rw [mark.same (if_neg other)], fun hk => ?_⟩
  rw [lineNumber?_of_lineRef hx hk, lineNumber?_of_lineRef hy (mark.kind.trans hk), mark.number]
  cases x.reference? with
  | none => exact .none
  | some k =>
    have same := lines k
    simp only [Option.map_some, Option.filter_some, Int.ofNat_eq_natCast, Bool.and_eq_true,
      decide_eq_true_eq]
    by_cases inside : 1 ≤ k ∧ (k : Int) ≤ maxLine
    · have inside' := same.mpr inside
      rw [if_pos (by omega), if_pos (by omega)]
      exact .some rfl
    · have outside' := mt same.mp inside
      rw [if_neg (by omega), if_neg (by omega)]
      exact .none

/-- Renumbering commutes with parsing. -/
theorem parseText_renumber
    (lines : ∀ k : Nat, 1 ≤ f k ∧ (f k : Int) ≤ maxLine ↔ 1 ≤ k ∧ (k : Int) ≤ maxLine)
    (short : ∀ k : Nat, Numeral.withinLimit k = true → Numeral.withinLimit (f k) = true)
    (text : String) :
    ∃ text', renumber (fun k => f k) text = .ok text' ∧
      Parse.Renumbered f (tokenize text) (tokenize text') (parseText text) (parseText text') := by
  have limit : ∀ k ∈ lineReferences text, Numeral.withinLimit (f k) = true := fun k hk =>
    short k (withinLimit_of_mem_lineReferences hk (Nat.le_refl k))
  obtain ⟨text', done⟩ := exists_renumber limit
  refine ⟨text', done, parse_renumbered ?_⟩
  rw [map_tokenize, map_tokenize]
  exact forall₂_upToInvalidMark (fun _ _ hx => hx.mark.kind)
    ⟨⟨rfl, fun _ => rfl, rfl⟩, rfl, fun _ => rfl, nofun⟩
    ((textRenumbered_of_renumber done).inRange lines)

theorem parseText_renumber_swap :
    renumber (fun k => (Equiv.swap 1 2 k : Nat)) "$1 + $2%" = .ok "$2 + $1%" ∧
      parseText "$1 + $2%" = .tree (.binary .add (.line 1) (.percentOf (.line 2) (.line 1))) ∧
      Parse.Renumbered (Equiv.swap 1 2) (tokenize "$1 + $2%") (tokenize "$2 + $1%")
        (parseText "$1 + $2%") (parseText "$2 + $1%") := by
  have fixed (k : Nat) (h₁ : k ≠ 1) (h₂ : k ≠ 2) : Equiv.swap 1 2 k = k :=
    Equiv.swap_apply_of_ne_of_ne h₁ h₂
  have lines (k : Nat) : 1 ≤ Equiv.swap 1 2 k ∧ ((Equiv.swap 1 2 k : Nat) : Int) ≤ maxLine ↔
      1 ≤ k ∧ (k : Int) ≤ maxLine := by
    by_cases h₁ : k = 1
    · subst h₁; decide
    · by_cases h₂ : k = 2
      · subst h₂; decide
      · rw [fixed k h₁ h₂]
  have short (k : Nat) (h : Numeral.withinLimit k = true) :
      Numeral.withinLimit (Equiv.swap 1 2 k : Nat) = true := by
    by_cases h₁ : k = 1
    · subst h₁; decide +kernel
    · by_cases h₂ : k = 2
      · subst h₂; decide +kernel
      · rwa [fixed k h₁ h₂]
  have done : renumber (fun k => (Equiv.swap 1 2 k : Nat)) "$1 + $2%" = .ok "$2 + $1%" := by
    decide +kernel
  obtain ⟨text', done', parsed⟩ := parseText_renumber lines short "$1 + $2%"
  obtain rfl := Except.ok.inj (done.symm.trans done')
  exact ⟨done, by decide +kernel, parsed⟩

end Worksheet

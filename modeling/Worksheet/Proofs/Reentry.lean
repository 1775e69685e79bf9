import Worksheet.Evaluation
import Worksheet.Proofs.Binary64.Status
import Worksheet.Proofs.Expr.Completeness
import Worksheet.Proofs.Redisplay

/-!
Re-entry of numbers. A line that is a decimal, with a minus sign or without one, has the number that
is read from the decimal for its value (`evaluateText_decimal`). So a number that is shown without a
power of ten can be entered as it is shown, and is shown in the same way again
(`evaluateText_showNumber`).
-/

set_option autoImplicit false
set_option relaxedAutoImplicit false

namespace Worksheet

open Binary64 Numeral Text

variable {ds : List Char}

/-! ## Lines that are one number -/

private theorem fitsBefore_minus (rest : List Char) :
    Lexeme.FitsBefore ⟨.minus, String.ofList ['-']⟩ rest := by
  have other : Lexeme.startsNumber '-' rest = false := by
    simp [Lexeme.startsNumber, show isDigit '-' = false by decide]
  exact ⟨'-', [], by decide, by decide, Lexeme.read_sign other (by decide) rfl⟩

private theorem lexemes_decimal (h : IsDecimal ds) (negative : Bool) :
    lexemes (String.ofList (signText negative ++ ds)) =
      (if negative then [⟨.minus, String.ofList ['-']⟩] else []) ++
        [⟨.number, String.ofList ds⟩] := by
  have mark : Cut.ProperBefore [] [⟨[], ⟨.number, String.ofList ds⟩⟩] :=
    ⟨List.forall_mem_nil _, Lexeme.fitsBefore_decimal h, List.forall_mem_nil _⟩
  have spelled : Cut.spelling ⟨[⟨[], ⟨.number, String.ofList ds⟩⟩], []⟩ = ds := by
    simp [Cut.spelling, Piece.spelling, Lexeme.spelling, TokenKind.hasSigil]
  rw [lexemes, String.toList_ofList]
  cases negative with
  | false =>
    have found := cut_spelling mark
    rw [spelled] at found
    exact congrArg (fun c => c.pieces.map Piece.lexeme) found
  | true =>
    have signed : Cut.ProperBefore []
        [⟨[], ⟨.minus, String.ofList ['-']⟩⟩, ⟨[], ⟨.number, String.ofList ds⟩⟩] :=
      ⟨List.forall_mem_nil _, fitsBefore_minus _, mark⟩
    have found := cut_spelling signed
    rw [Cut.spelling_cons, spelled] at found
    exact congrArg (fun c => c.pieces.map Piece.lexeme) found

private theorem parseText_decimal (h : IsDecimal ds) {w : Float} (read : readFloat? ds = some w)
    (negative : Bool) : parseText (String.ofList (signText negative ++ ds)) =
      .tree (if negative then .neg (.number w) else .number w) := by
  have marks := lexemes_decimal h negative
  have number : Derives .unary [⟨.number, String.ofList ds⟩] (.number w) :=
    .primary (.number rfl ((congrArg readFloat? String.toList_ofList).trans read))
  have factor : Derives .unary (lexemes (String.ofList (signText negative ++ ds)))
      (if negative then .neg (.number w) else .number w) := by
    rw [marks]
    cases negative with
    | false => exact number
    | true => exact .neg rfl number
  refine parseText_of_derivesLine (.sum (.product (.factor (.power (.unary factor))))) ?_
  rw [marks]
  cases negative <;>
    simp [withoutTarget, nestingCost, TokenKind.nestingCost, Phrase.height, nestingLimit]

theorem evaluateText_decimal (h : IsDecimal ds) {w : Float} (read : readFloat? ds = some w)
    (finite : w.isFinite = true) (negative : Bool) (s : Scope) :
    evaluateText (String.ofList (signText negative ++ ds)) s =
      (.value (if negative then -w else w), s) := by
  rw [evaluateText, parseText_decimal h read]
  cases negative with
  | false => exact if_pos finite
  | true => exact if_pos ((isFinite_neg w).trans finite)

/-! ## Re-entry -/

/-- A number that is shown without a power of ten can be entered as it is shown: the line has a
value that is shown in the same way, and that is the number itself if that is whole and below the
bound on whole numbers. -/
theorem evaluateText_showNumber {v : Float} (finite : v.isFinite = true)
    (plain : 'e' ∉ (showNumber v).toList) :
    ∃ w, (∀ s, evaluateText (showNumber v) s = (.value w, s)) ∧ showNumber w = showNumber v ∧
      ∀ n, (ofFloat v).whole? = some n → n < 10 ^ 15 → (w == v) = true := by
  obtain ⟨negative, m, q, parts⟩ := isFinite_iff.mp finite
  have proper : (Binary64.finite false m q).Proper := (parts ▸ proper_ofFloat v :)
  have text := showNumber_eq parts
  rw [text, String.toList_ofList, List.mem_append, not_or] at plain
  obtain ⟨r, decimal, near⟩ := showSize_nearest proper plain.2
  obtain ⟨num, den, hd, same, read⟩ := decimal.exists_readFloat?
  obtain ⟨m', q', parts', zero, shown, whole⟩ := near num den hd same
  generalize nearest num den = w at read parts'
  generalize signed : (negative && m != 0) = sign at text
  have finite' : w.isFinite = true := isFinite_iff.mpr ⟨_, _, _, parts'⟩
  have parts'' : ofFloat (if sign then -w else w) = Binary64.finite sign m' q' := by
    cases sign with
    | false => rw [if_neg Bool.false_ne_true, parts']
    | true => rw [if_pos rfl, ofFloat_neg, parts', Binary64.neg, Bool.not_false]
  have nonzero : (m' != 0) = (m != 0) := by
    rw [Bool.eq_iff_iff, bne_iff_ne, bne_iff_ne]
    exact not_congr zero
  refine ⟨if sign then -w else w, fun s => ?_, ?_, fun n integral small => ?_⟩
  · rw [text]
    exact evaluateText_decimal decimal.isDecimal read finite' sign s
  · rw [showNumber_eq parts'', nonzero, shown, text, ← signed, Bool.and_assoc, Bool.and_self]
  · have bound : 10 ^ 15 = wholeBound := by decide
    rw [parts] at integral
    obtain ⟨rfl, rfl⟩ := whole n (whole?_eq_some.mp integral) (bound ▸ small)
    refine beq_of_ofFloat parts'' parts fun some => ?_
    rw [← signed, bne_iff_ne.mpr some, Bool.and_true]

theorem evaluateText_showNumber_dozen :
    let v := -(12 : Float)
    v.isFinite = true ∧ 'e' ∉ (showNumber v).toList ∧ (ofFloat v).whole? = some 12 ∧
      ∃ w, (∀ s, evaluateText (showNumber v) s = (.value w, s)) ∧ showNumber w = showNumber v ∧
        (w == v) = true := by
  intro v
  have finite : v.isFinite = true := by decide +kernel
  have plain : 'e' ∉ (showNumber v).toList := by decide +kernel
  have whole : (ofFloat v).whole? = some 12 := by decide +kernel
  obtain ⟨w, value, shown, same⟩ := evaluateText_showNumber finite plain
  exact ⟨finite, plain, whole, w, value, shown, same 12 whole (by decide)⟩

end Worksheet

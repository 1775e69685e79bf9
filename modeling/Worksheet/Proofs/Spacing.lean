import Worksheet.Evaluation
import Worksheet.Proofs.Sheet.Pass

/-!
Blanks between tokens. A text whose gaps take other blanks, or blanks where there were none, is cut
into the same marks: a mark that ends where the next begins ends before a blank as well
(`Respaced.lexemes_eq`). So nothing that is worked out from a text depends on them
(`evaluateText_respaced`).
-/

set_option autoImplicit false
set_option relaxedAutoImplicit false

namespace Worksheet

open Text

/-- The same tokens with other blanks around them. The gap before the first token and what comes
after the last are any blanks, and so are the gaps between two tokens, but a gap that parts two
tokens is not taken away. The truth value tells whether a token came before. -/
inductive Spaced : Bool → List Token → List Char → List Char → Prop
  | tail {after : Bool} {cs cs' : List Char} (blank : ∀ c ∈ cs, isBlank c = true)
      (blank' : ∀ c ∈ cs', isBlank c = true) : Spaced after [] cs cs'
  | token {after : Bool} {t : Token} {ts : List Token} {gap gap' rest rest' : List Char}
      (blank : ∀ c ∈ gap, isBlank c = true) (blank' : ∀ c ∈ gap', isBlank c = true)
      (parted : after = true → gap ≠ [] → gap' ≠ []) (h : Spaced true ts rest rest') :
      Spaced after (t :: ts) (gap ++ (t.spelling ++ rest)) (gap' ++ (t.spelling ++ rest'))

def Respaced (text text' : String) : Prop := Spaced false (scan text) text.toList text'.toList

private theorem gap_unique {x : Lexeme} {rest : List Char} (fits : x.FitsBefore rest)
    {gap gap' rest' : List Char} (blank : ∀ c ∈ gap, isBlank c = true)
    (blank' : ∀ c ∈ gap', isBlank c = true)
    (same : gap ++ (x.spelling ++ rest) = gap' ++ (x.spelling ++ rest')) :
    gap' = gap ∧ rest' = rest := by
  obtain ⟨c, body, mark, hx, -⟩ := fits
  rw [hx, List.cons_append, List.cons_append] at same
  have stops (cs : List Char) : (c :: cs).head?.any isBlank = false := mark
  have spans := span_of_boundary blank (stops (body ++ rest))
  have spans' := span_of_boundary blank' (stops (body ++ rest'))
  rw [same] at spans
  obtain rfl := spans'.1.symm.trans spans.1
  have marks := spans'.2.symm.trans spans.2
  exact ⟨rfl, List.append_cancel_left (List.cons.inj marks).2⟩

private theorem narrows_gap {gap gap' : List Char} (blank' : ∀ c ∈ gap', isBlank c = true)
    (parted : gap ≠ [] → gap' ≠ []) {x : Lexeme} {rest rest' : List Char}
    (fits : x.FitsBefore rest) :
    Narrows (gap' ++ (x.spelling ++ rest')) (gap ++ (x.spelling ++ rest)) := by
  cases gap' with
  | cons c gap' =>
    intro d hd
    obtain rfl := Option.some.inj hd
    exact .inl (blank' c List.mem_cons_self)
  | nil =>
    obtain rfl : gap = [] := by
      by_contra some
      exact parted some rfl
    obtain ⟨c, body, -, hx, -⟩ := fits
    rw [hx]
    exact .of_head? rfl

private theorem exists_proper {tail : List Char} {ps : List Piece}
    (proper : Cut.ProperBefore tail ps) {after : Bool} {ts : List Token} {cs' : List Char}
    (marks : ts.map Token.toLexeme = ps.map Piece.lexeme)
    (h : Spaced after ts (Cut.spelling ⟨ps, tail⟩) cs') :
    ∃ ps' tail', cs' = Cut.spelling ⟨ps', tail'⟩ ∧ Cut.ProperBefore tail' ps' ∧
      ps'.map Piece.lexeme = ps.map Piece.lexeme ∧
      (after = true → Narrows cs' (Cut.spelling ⟨ps, tail⟩)) := by
  induction ps generalizing after ts cs' with
  | nil =>
    obtain rfl := List.map_eq_nil_iff.mp marks
    generalize Cut.spelling ⟨[], tail⟩ = cs at h
    cases h with
    | tail _ blank' =>
      refine ⟨[], cs', rfl, blank', rfl, fun _ c hc => .inl (blank' c ?_)⟩
      exact List.mem_of_mem_head? hc
  | cons p ps ih =>
    obtain ⟨blankGap, fits, proper⟩ := proper
    obtain ⟨t, ts, rfl, mark, marks⟩ := List.map_eq_cons_iff.mp marks
    rw [Cut.spelling_cons] at h ⊢
    generalize whole : p.gap ++ (p.lexeme.spelling ++ Cut.spelling ⟨ps, tail⟩) = cs at h
    cases h with
    | @token _ _ _ gap gap' rest rest' blank blank' parted h =>
      rw [mark] at whole ⊢
      obtain ⟨rfl, rfl⟩ := gap_unique fits blankGap blank whole
      obtain ⟨ps', tail', rfl, proper', marks', narrow⟩ := ih proper marks h
      refine ⟨⟨gap', p.lexeme⟩ :: ps', tail', (Cut.spelling_cons ⟨gap', p.lexeme⟩ ps' tail').symm,
        ⟨blank', fits.narrow (narrow rfl), proper'⟩, by rw [List.map_cons, marks', List.map_cons],
        fun hafter => ?_⟩
      rw [← whole]
      exact narrows_gap blank' (parted hafter) fits

theorem Respaced.lexemes_eq {text text' : String} (h : Respaced text text') :
    lexemes text' = lexemes text := by
  have spaced : Spaced false (scan text) (cut text.toList).spelling text'.toList := by
    rw [spelling_cut]
    exact h
  obtain ⟨ps', tail', spelled, proper, marks, -⟩ :=
    exists_proper (proper_cut text.toList) (map_scan text) spaced
  rw [lexemes, spelled, cut_spelling proper]
  exact marks

theorem LineKind.ofText_eq_of_lexemes {text text' : String} (marks : lexemes text' = lexemes text) :
    LineKind.ofText text' = LineKind.ofText text := by
  rw [ofText_eq, ofText_eq, head?_dropWhile_isBlank, head?_dropWhile_isBlank, marks]

theorem evaluateText_eq_of_lexemes {text text' : String} (marks : lexemes text' = lexemes text)
    (s : Scope) : evaluateText text' s = evaluateText text s := by
  simp only [evaluateText, parseText, parse, map_tokenize, marks]
  split
  · rfl
  · split <;> rfl

/-- Blanks around the tokens of a text play no part in what its tokens are, what kind of line it is
and what it is worked out to. -/
theorem evaluateText_respaced {text text' : String} (h : Respaced text text') :
    (scan text').map Token.toLexeme = (scan text).map Token.toLexeme ∧
      LineKind.ofText text' = LineKind.ofText text ∧
      ∀ s, evaluateText text' s = evaluateText text s := by
  have marks := h.lexemes_eq
  exact ⟨by rw [map_scan, map_scan, marks], LineKind.ofText_eq_of_lexemes marks,
    evaluateText_eq_of_lexemes marks⟩

theorem evaluateText_respaced_product :
    Respaced "2*  .5" "\t2\u3000*\u00a0.5 " ∧
      (scan "\t2\u3000*\u00a0.5 ").map Token.toLexeme = (scan "2*  .5").map Token.toLexeme ∧
      LineKind.ofText "\t2\u3000*\u00a0.5 " = LineKind.ofText "2*  .5" ∧
      ∀ s, evaluateText "\t2\u3000*\u00a0.5 " s = evaluateText "2*  .5" s := by
  have tokens : scan "2*  .5" =
      [⟨⟨.number, "2"⟩, 0⟩, ⟨⟨.times, "*"⟩, 1⟩, ⟨⟨.number, ".5"⟩, 4⟩] := by
    decide +kernel
  have chars : "2*  .5".toList =
      [] ++ (['2'] ++ ([] ++ (['*'] ++ ([' ', ' '] ++ (['.', '5'] ++ []))))) := by
    decide +kernel
  have chars' : "\t2\u3000*\u00a0.5 ".toList =
      ['\t'] ++ (['2'] ++ (['\u3000'] ++ (['*'] ++ (['\u00a0'] ++ (['.', '5'] ++ [' ']))))) := by
    decide +kernel
  have spaced : Respaced "2*  .5" "\t2\u3000*\u00a0.5 " := by
    have one {c : Char} (blank : isBlank c = true) : ∀ d ∈ [c], isBlank d = true :=
      List.forall_mem_singleton.mpr blank
    have two : ∀ d ∈ [' ', ' '], isBlank d = true := List.forall_mem_cons.mpr ⟨rfl, one rfl⟩
    rw [Respaced, tokens, chars, chars']
    refine .token nofun (one rfl) nofun ?_
    refine .token nofun (one rfl) (fun _ _ => List.cons_ne_nil _ _) ?_
    refine .token two (one rfl) (fun _ _ => List.cons_ne_nil _ _) ?_
    exact .tail nofun (one rfl)
  exact ⟨spaced, evaluateText_respaced spaced⟩

end Worksheet

import Worksheet.Proofs.Expr.Earliest

/-!
References that are no line. Reading refuses such a reference as one exactly where an operand may
come, so the answer to a text names it exactly if the marks before it leave an operand due
(`parseText_refuses_iff`).
-/

set_option autoImplicit false
set_option relaxedAutoImplicit false

namespace Worksheet

private theorem UnlessTooDeep.bind_error {α β : Type} {x : Except Refusal α} {r : Refusal}
    (h : UnlessTooDeep x (.error r)) (f : α → Except Refusal β) :
    UnlessTooDeep (x >>= f) (.error r) := by
  cases h with
  | tooDeep rest _ => exact .tooDeep rest _
  | same _ => exact .same _

private theorem exists_withoutTarget {before more : List Lexeme} {x y : Lexeme} {e : Expr}
    (line : DerivesLine (before ++ x :: more) e) (hx : x.kind = .lineRef) (hy : y.kind = .lineRef)
    (rest : List Lexeme) :
    ∃ front e', Derives .sum (front ++ x :: more) e' ∧
      withoutTarget (before ++ y :: rest) = front ++ y :: rest := by
  generalize whole : before ++ x :: more = xs at line
  cases line with
  | @sum _ e h =>
    subst whole
    refine ⟨before, e, h, ?_⟩
    rcases withoutTarget_cases (before ++ y :: rest) with ⟨a, b, ha, hb, target⟩ | ⟨same, -⟩
    · rcases before with _ | ⟨c, _ | ⟨d, before⟩⟩ <;>
        simp only [List.nil_append, List.cons_append, List.cons.injEq] at target
      · rw [← target.1, hy] at ha
        contradiction
      · rw [← target.2.1, hy] at hb
        contradiction
      · exact absurd hb (target.2.1 ▸ (h.inner d (by simp)).ne_equals)
    · exact same
  | @assign ys a b e ha hb h =>
    rcases before with _ | ⟨c, _ | ⟨d, before⟩⟩ <;>
      simp only [List.nil_append, List.cons_append, List.cons.injEq] at whole
    · rw [← whole.1, hx] at ha
      contradiction
    · rw [← whole.2.1, hx] at hb
      contradiction
    · obtain ⟨rfl, rfl, rfl⟩ := whole
      exact ⟨before, e, h, if_pos ⟨ha, hb⟩⟩

private theorem readAll_noLine {before : List Lexeme} (due : OperandDue before) {y : Lexeme}
    (hy : y.kind = .lineRef) (unreadable : lineNumber? y.text = none) (rest : List Lexeme) :
    UnlessTooDeep (readAll (before ++ y :: rest))
      (.error ⟨.lineOutOfRange y.text, y :: rest⟩) := by
  obtain ⟨more, e, line⟩ := due
  rw [List.append_assoc, List.singleton_append] at line
  obtain ⟨front, e', sum, target⟩ := exists_withoutTarget line rfl hy rest
  obtain ⟨wrap, read⟩ := readLine_eq (before ++ y :: rest)
  have number : lineNumber? "1" = some 1 := by decide
  rw [readAll, read, target]
  exact ((read_unreadable sum rfl number hy unreadable rest nestingLimit).bind_error _).bind_error _

namespace EndsWithStop

variable {body before after : List Token} {stop t : Token}

private theorem exists_operandDue (ends : EndsWithStop body stop) {text : String} {position : Int}
    (h : parse (body ++ [stop]) = .refused (.lineOutOfRange text) position) :
    ∃ before t after, body ++ [stop] = before ++ t :: after ∧ t.position = position ∧
      OperandDue (before.map Token.toLexeme) := by
  obtain ⟨rest, read, rfl⟩ := ends.exists_of_refused h
  obtain ⟨-, marks, split, -, due⟩ := readAll_eq_error read nofun
  have blames := (read ▸ readAll_within _ : Ends _ _ (.error _)).of_error.blames
  cases blames with
  | @lineOutOfRange x rest _ _ =>
    have whole : (body ++ [stop]).map Token.toLexeme = marks ++ x :: rest := by
      rw [← split, List.map_append, List.map_singleton]
    obtain ⟨before, back, tokens, rfl, hback⟩ := List.map_eq_append_iff.mp whole
    obtain ⟨t, after, rfl, rfl, rfl⟩ := List.map_eq_cons_iff.mp hback
    refine ⟨before, t, after, tokens, ?_, due _ rfl⟩
    rw [tokens, List.length_cons, List.length_map, offsetFromEnd_append]

private theorem parse_noLine (ends : EndsWithStop body stop)
    (shallow : ∀ position, parse (body ++ [stop]) ≠ .refused .tooDeep position)
    (tokens : body ++ [stop] = before ++ t :: after) (hk : t.kind = .lineRef)
    (unreadable : lineNumber? t.text = none) (due : OperandDue (before.map Token.toLexeme)) :
    parse (body ++ [stop]) = .refused (.lineOutOfRange t.text) t.position := by
  have marks : body.map Token.toLexeme ++ [stop.toLexeme] =
      before.map Token.toLexeme ++ t.toLexeme :: after.map Token.toLexeme := by
    rw [← List.map_singleton, ← List.map_append, tokens, List.map_append, List.map_cons]
  have refused := readAll_noLine due hk unreadable (after.map Token.toLexeme)
  rw [← marks] at refused
  rcases ends.parse_cases with ⟨none, -⟩ | ⟨-, ⟨e, read, -⟩ | ⟨r, read, parsed⟩⟩
  · have alone : t ∈ [stop] := by
      rw [List.map_eq_nil_iff.mp none, List.nil_append] at tokens
      simp [tokens]
    rw [List.mem_singleton.mp alone, ends.last] at hk
    contradiction
  · rw [read] at refused
    cases refused
  · rw [read] at refused
    cases refused with
    | tooDeep rest _ => exact absurd parsed (shallow _)
    | same _ =>
      rw [parsed, tokens, List.length_cons, List.length_map, offsetFromEnd_append]

end EndsWithStop

private theorem before_unique {before before' after after' : List Token} {t t' : Token}
    (ordered : (before ++ t :: after).Pairwise fun t u => t.position < u.position)
    (split : before ++ t :: after = before' ++ t' :: after') (same : t'.position = t.position) :
    before' = before := by
  rw [List.pairwise_append, List.pairwise_cons] at ordered
  obtain ⟨-, ⟨later, -⟩, sooner⟩ := ordered
  rcases List.append_eq_append_iff.mp split with ⟨middle, rfl, rest⟩ | ⟨middle, rfl, rest⟩
  · cases middle with
    | nil => exact List.append_nil before
    | cons c middle =>
      have member : t' ∈ after := by simp [(List.cons.inj rest).2]
      exact absurd same.symm (Int.ne_of_lt (later t' member))
  · cases middle with
    | nil => exact (List.append_nil before').symm
    | cons c middle =>
      have member : t' ∈ before' ++ c :: middle := by simp [(List.cons.inj rest).1]
      exact absurd same (Int.ne_of_lt (sooner t' member t List.mem_cons_self))

theorem parseText_refuses_iff {text : String} {before after : List Token} {t : Token}
    (tokens : tokenize text = before ++ t :: after) (hk : t.kind = .lineRef)
    (unreadable : lineNumber? t.text = none) :
    parseText text = .refused (.lineOutOfRange t.text) t.position ↔
      OperandDue (before.map Token.toLexeme) ∧
        ∀ position, parseText text ≠ .refused .tooDeep position := by
  obtain ⟨body, stop, whole, ends⟩ := exists_endsWithStop text
  have ordered := (tokenize_ordered text).1
  rw [parseText, whole]
  constructor
  · intro refused
    obtain ⟨before', t', after', split, place, due⟩ := ends.exists_operandDue refused
    rw [tokens] at ordered
    obtain rfl := before_unique ordered (tokens.symm.trans (whole.trans split)) place
    exact ⟨due, by simp [refused]⟩
  · rintro ⟨due, shallow⟩
    exact ends.parse_noLine shallow (whole.symm.trans tokens) hk unreadable due

end Worksheet

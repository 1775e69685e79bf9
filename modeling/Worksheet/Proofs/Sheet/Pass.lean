import Mathlib.Data.List.Induction
import Worksheet.Proofs.Evaluation.Frame
import Worksheet.Proofs.Token.Renumber
import Worksheet.Sheet

/-!
The pass over the texts of a sheet. What kind a line has depends on the first character of its first
mark alone (`lineKind_agrees`). One line gives its outcome in the scope that it finds and changes
that scope by `Scope.after`; the line at a place is worked out in the scope of the sheet that ends
before it (`lines_getElem?_ofInputs`).
-/

set_option autoImplicit false
set_option relaxedAutoImplicit false

namespace Worksheet

/-! ## Kinds of lines -/

open Text

theorem head?_dropWhile_isBlank (text : String) :
    (text.toList.dropWhile isBlank).head? =
      (lexemes text).head?.bind fun x => x.spelling.head? := by
  unfold lexemes cut
  split
  · next none => simp [none]
  · next c rest more =>
    obtain ⟨body, spelled, -⟩ := Lexeme.exists_spelling_read c rest
    simp [more, spelled]

theorem LineKind.ofText_eq (text : String) :
    LineKind.ofText text =
      match (text.toList.dropWhile isBlank).head? with
      | none => .blank
      | some c => if c = '#' then .comment else .expression := by
  unfold LineKind.ofText
  cases text.toList.dropWhile isBlank <;> rfl

private theorem lexemes_eq_nil {text : String} :
    lexemes text = [] ↔ text.toList.dropWhile isBlank = [] := by
  unfold lexemes cut
  split
  · next none => simp [none]
  · next more => simp [more]

theorem LineKind.ofText_eq_blank {text : String} :
    LineKind.ofText text = .blank ↔ lexemes text = [] := by
  rw [lexemes_eq_nil]
  unfold LineKind.ofText
  split
  · next none => simp [none]
  · next c rest more =>
    rw [more]
    constructor
    · intro h
      split at h <;> contradiction
    · exact nofun

theorem LineKind.ofText_eq_expression {text : String} {x : Lexeme} {xs : List Lexeme}
    (marks : lexemes text = x :: xs) (hk : x.kind = .lineRef) :
    LineKind.ofText text = .expression := by
  rw [LineKind.ofText_eq, head?_dropWhile_isBlank, marks]
  simp [Lexeme.spelling, hk, TokenKind.hasSigil]

theorem TextRenumbered.lineKind {g : Nat → Nat} {text text' : String}
    (h : TextRenumbered g text text') : LineKind.ofText text' = LineKind.ofText text := by
  have first : (text'.toList.dropWhile isBlank).head? = (text.toList.dropWhile isBlank).head? := by
    rw [head?_dropWhile_isBlank, head?_dropWhile_isBlank]
    unfold TextRenumbered at h
    generalize lexemes text = xs, lexemes text' = ys at h
    cases h with
    | nil => rfl
    | cons hx _ => exact hx.head?_spelling
  rw [LineKind.ofText_eq, LineKind.ofText_eq, first]

/-! ## One line after the other -/

def lineOutcome (text : String) (s : Scope) : Outcome :=
  if LineKind.ofText text = .expression then (evaluateText text s).1 else .blank

def Scope.after (s : Scope) (number : Nat) (text : String) (outcome : Outcome) : Scope :=
  match outcome with
  | .value v => (s.assign (assigned? text) v).record number v
  | _ => s

theorem evaluateLine_eq (number : Nat) (text : String) (s : Scope) :
    evaluateLine number text s =
      (lineOutcome text s, s.after number text (lineOutcome text s)) := by
  have scope := evaluateText_snd text s
  unfold evaluateLine lineOutcome
  split
  · next expression =>
    rw [if_pos expression]
    split
    · next v after value =>
      rw [value] at scope ⊢
      exact congrArg (fun t => (_, Scope.record t _ _)) scope
    · next other =>
      generalize evaluateText text s = r at scope other
      obtain ⟨o, after⟩ := r
      cases o with
      | value v => exact absurd rfl (other v after)
      | failure why => exact congrArg (Prod.mk _) scope
      | blank => exact congrArg (Prod.mk _) scope
  · next other =>
    rw [if_neg other]
    rfl

theorem lineOutcome_eq_blank {text : String} {s : Scope} :
    lineOutcome text s = .blank ↔ LineKind.ofText text ≠ .expression := by
  unfold lineOutcome
  split
  · next expression =>
    simp only [expression, ne_eq, not_true_eq_false, iff_false]
    have parsed : parseText text ≠ .empty := fun empty => by
      rw [parseText_eq_empty, ← LineKind.ofText_eq_blank, expression] at empty
      contradiction
    unfold evaluateText Parse.evaluate
    split
    · unfold Expr.evaluate
      split
      · split <;> exact Outcome.noConfusion
      · exact Outcome.noConfusion
    · exact Outcome.noConfusion
    · contradiction
  · next other => simp [other]

theorem lineOutcome_eq_value {text : String} {s : Scope} {v : Float} :
    lineOutcome text s = .value v ↔
      LineKind.ofText text = .expression ∧ (evaluateText text s).1 = .value v := by
  unfold lineOutcome
  split
  · next expression => simp [expression]
  · next other => simp [other]

theorem isFinite_of_lineOutcome {text : String} {s : Scope} {v : Float}
    (h : lineOutcome text s = .value v) : v.isFinite = true := by
  obtain ⟨-, -, -, -, finite, -⟩ := evaluateText_eq_value (lineOutcome_eq_value.mp h).2
  exact finite

namespace Scope

variable {s : Scope} {number : Nat} {text : String} {v : Float}

@[simp] theorem lineValue?_after (k : Int) :
    (s.after number text (.value v)).lineValue? k =
      if (number : Int) = k then some v else s.lineValue? k := by
  rw [after, lineValue?_record, lineValue?_assign]

@[simp] theorem variableValue?_after (x : String) :
    (s.after number text (.value v)).variableValue? x =
      if assigned? text = some x then some v else s.variableValue? x :=
  variableValue?_assign s (assigned? text) v x

/-- What holds of all numbers with a value holds after a line, if it holds of that line's number. -/
theorem of_lineValue?_after {P : Int → Prop} (old : ∀ k v, s.lineValue? k = some v → P k)
    (new : P number) (o : Outcome) :
    ∀ k v, (s.after number text o).lineValue? k = some v → P k := by
  intro k v found
  cases o with
  | value w =>
    rw [lineValue?_after] at found
    split at found
    · next same => exact same ▸ new
    · exact old k v found
  | failure why => exact old k v found
  | blank => exact old k v found

end Scope

theorem evaluateFrom_cons (n : Nat) (text : String) (texts : List String) (s : Scope) :
    evaluateFrom n (text :: texts) s =
      (⟨n, n, text, lineOutcome text s⟩ ::
          (evaluateFrom (n + 1) texts (s.after (n + 1) text (lineOutcome text s))).1,
        (evaluateFrom (n + 1) texts (s.after (n + 1) text (lineOutcome text s))).2) := by
  rw [evaluateFrom, evaluateLine_eq]

theorem evaluateFrom_append (n : Nat) (texts more : List String) (s : Scope) :
    evaluateFrom n (texts ++ more) s =
      ((evaluateFrom n texts s).1 ++
          (evaluateFrom (n + texts.length) more (evaluateFrom n texts s).2).1,
        (evaluateFrom (n + texts.length) more (evaluateFrom n texts s).2).2) := by
  induction texts generalizing n s with
  | nil => rfl
  | cons text texts ih =>
    have place : n + 1 + texts.length = n + (text :: texts).length := by
      rw [List.length_cons]
      omega
    rw [List.cons_append, evaluateFrom_cons, evaluateFrom_cons, ih, place]
    rfl

namespace Sheet

theorem ofInputs_concat (texts : List String) (text : String) :
    ofInputs (texts ++ [text]) =
      ⟨(ofInputs texts).lines ++
          [⟨texts.length, texts.length, text, lineOutcome text (ofInputs texts).scope⟩],
        (ofInputs texts).scope.after (texts.length + 1) text
          (lineOutcome text (ofInputs texts).scope)⟩ := by
  unfold ofInputs
  rw [evaluateFrom_append, evaluateFrom_cons, Nat.zero_add]
  rfl

@[simp] theorem inputs_ofInputs (texts : List String) : (ofInputs texts).inputs = texts := by
  induction texts using List.reverseRecOn with
  | nil => rfl
  | append_singleton texts text ih =>
    unfold inputs at ih ⊢
    rw [ofInputs_concat, List.map_append, ih]
    rfl

@[simp] theorem length_inputs (s : Sheet) : s.inputs.length = s.size := List.length_map _

@[simp] theorem size_ofInputs (texts : List String) : (ofInputs texts).size = texts.length := by
  have h := congrArg List.length (inputs_ofInputs texts)
  rwa [length_inputs] at h

/-- The line at a place is worked out in the scope of the sheet that ends before it. -/
theorem lines_getElem?_ofInputs (texts : List String) (j : Nat) :
    (ofInputs texts).lines[j]? =
      texts[j]?.map fun text => ⟨j, j, text, lineOutcome text (ofInputs (texts.take j)).scope⟩ := by
  induction texts using List.reverseRecOn with
  | nil => rfl
  | append_singleton texts text ih =>
    have length : (ofInputs texts).lines.length = texts.length := size_ofInputs texts
    rw [ofInputs_concat]
    rcases Nat.lt_trichotomy j texts.length with before | rfl | past
    · rw [List.getElem?_append_left (length ▸ before), List.getElem?_append_left before, ih,
        List.take_append_of_le_length before.le]
    · rw [← length, List.getElem?_concat_length, length, List.getElem?_concat_length,
        List.take_left]
      rfl
    · rw [List.getElem?_eq_none (by simp [length]; omega),
        List.getElem?_eq_none (by simp; omega), Option.map_none]

theorem exists_text {texts : List String} {j : Nat} {l : Line}
    (h : (ofInputs texts).lines[j]? = some l) : ∃ text, texts[j]? = some text ∧
      ⟨j, j, text, lineOutcome text (ofInputs (texts.take j)).scope⟩ = l := by
  rwa [lines_getElem?_ofInputs, Option.map_eq_some_iff] at h

theorem lines_take (texts : List String) (j : Nat) :
    (ofInputs (texts.take j)).lines = (ofInputs texts).lines.take j := by
  apply List.ext_getElem?
  intro i
  rw [List.getElem?_take, lines_getElem?_ofInputs, lines_getElem?_ofInputs, List.getElem?_take]
  split
  · next before => rw [List.take_take, Nat.min_eq_left before.le]
  · rfl

end Sheet

end Worksheet

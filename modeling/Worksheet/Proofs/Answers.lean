import Worksheet.Proofs.Evaluation.Unbound
import Worksheet.Proofs.Expr.Operand
import Worksheet.Proofs.Sheet.Failure

/-!
Every text is answered. Its tokens are made so that each can be converted, but for references with
too many digits (`wellMade_of_mem_tokenize`); these are refused where an operand is due, and nothing
else that a text can hold stops the work on it (`evaluateText_answers`).
-/

set_option autoImplicit false
set_option relaxedAutoImplicit false

namespace Worksheet

open Text

/-- What a token is made of. A number is a decimal and can be read; a reference is made of digits
and can be read if they are not too many; a name is a letter and word characters after it. -/
structure Token.WellMade (t : Token) : Prop where
  number : t.kind = .number →
    Numeral.IsDecimal t.text.toList ∧ ∃ v, Numeral.readFloat? t.text.toList = some v
  reference : t.kind = .lineRef → t.text.toList ≠ [] ∧
    (∀ c ∈ t.text.toList, isDigit c = true) ∧
    (Numeral.readInt? t.text.toList = none ↔ Numeral.digitLimit < t.text.length)
  name : t.kind = .name →
    ∃ c cs, t.text.toList = c :: cs ∧ isLetter c = true ∧ ∀ d ∈ cs, isWord d = true

private theorem readInt?_eq_none {ds : List Char} (some : ds ≠ [])
    (digits : ∀ c ∈ ds, isDigit c = true) :
    Numeral.readInt? ds = none ↔ Numeral.digitLimit < ds.length := by
  rw [Numeral.readInt?_of_digits some digits, Option.map_eq_none_iff, Numeral.ofDigits?]
  split <;> simp <;> omega

private theorem wellMade_of_fitsBefore {t : Token} {rest : List Char}
    (fits : t.toLexeme.FitsBefore rest) : t.WellMade where
  number hk := ⟨fits.isDecimal hk, Numeral.exists_readFloat? (fits.isDecimal hk)⟩
  reference hk := by
    obtain ⟨some, digits, -⟩ := fits.digits hk
    exact ⟨some, digits, String.length_toList ▸ readInt?_eq_none some digits⟩
  name hk := fits.name hk

theorem wellMade_of_mem_tokenize {text : String} {t : Token} (h : t ∈ tokenize text) :
    t.WellMade := by
  obtain ⟨body, stop, split, hstop, among⟩ := exists_of_upToInvalid text.length (scan text)
  rw [tokenize, split] at h
  rcases List.mem_append.mp h with ht | ht
  · have mark : t.toLexeme ∈ lexemes text := map_scan text ▸ List.mem_map_of_mem (among t ht)
    obtain ⟨rest, fits⟩ := exists_fitsBefore mark
    exact wellMade_of_fitsBefore fits
  · obtain rfl := List.mem_singleton.mp ht
    constructor <;> intro hk <;> rw [hstop] at hk <;> contradiction

/-- The answer that a reference is no line: parsing is refused at its place, and the message shows
its digits as they are written. -/
structure RefusesReference (text : String) (t : Token) : Prop where
  parsed : parseText text = .refused (.lineOutOfRange t.text) t.position
  answer : ∀ s, ∃ why, (evaluateText text s).1 = .failure why ∧
    why.message = "Invalid line reference: $" ++ t.text

private theorem refusesReference_iff {text : String} {t : Token} : RefusesReference text t ↔
    parseText text = .refused (.lineOutOfRange t.text) t.position := by
  refine ⟨RefusesReference.parsed, fun parsed => ⟨parsed, fun s => ?_⟩⟩
  exact ⟨.refused (.lineOutOfRange t.text), by rw [evaluateText, parsed]; rfl, rfl⟩

/-! ## Messages -/

def failureBeginnings : List String :=
  ["Unexpected end of input", "Unexpected token: ", "Invalid token: ", "Expected '(' after sqrt",
    "Expected ')'", "Invalid line reference: $", "Expression too deeply nested", "? $", "∞", "-∞",
    "NaN", "?"]

private theorem ne_append_of_mem {message text : String} (apart : ∀ p ∈ failureBeginnings,
      ¬ p.toList <+: text.toList ∧ ¬ text.toList <+: p.toList)
    (h : ∃ p ∈ failureBeginnings, ∃ rest, message = p ++ rest) (rest : String) :
    message ≠ text ++ rest := by
  obtain ⟨p, hp, rest', rfl⟩ := h
  intro same
  have front : p.toList <+: (text ++ rest).toList :=
    same ▸ String.toList_append ▸ List.prefix_append p.toList rest'.toList
  have front' : text.toList <+: (text ++ rest).toList :=
    String.toList_append ▸ List.prefix_append text.toList rest.toList
  exact (List.prefix_or_prefix_of_prefix front front').elim (apart p hp).1 (apart p hp).2

private theorem beginning_self {p : String} (hp : p ∈ failureBeginnings) :
    ∃ q ∈ failureBeginnings, ∃ rest, p = q ++ rest :=
  ⟨p, hp, "", String.append_empty.symm⟩

private theorem SyntaxError.Blames.beginning {why : SyntaxError} {xs : List Lexeme}
    (h : why.Blames xs) (readable : ∀ text, why ≠ .unreadableNumber text) :
    ∃ p ∈ failureBeginnings, ∃ rest, why.message = p ++ rest := by
  cases h with
  | exhausted => exact beginning_self (by decide)
  | stop _ => exact beginning_self (by decide)
  | unexpected x _ => exact ⟨"Unexpected token: ", by decide, x.text, rfl⟩
  | @invalid x _ _ => exact ⟨"Invalid token: ", by decide, x.text, rfl⟩
  | missingArgument _ => exact beginning_self (by decide)
  | missingParen _ => exact beginning_self (by decide)
  | @lineOutOfRange x _ _ _ => exact ⟨"Invalid line reference: $", by decide, x.text, rfl⟩
  | unreadableNumber _ _ => exact absurd rfl (readable _)
  | tooDeep _ => exact beginning_self (by decide)

private theorem Fault.Arises.beginning {s : Scope} {ms : List Mention} {why : Fault}
    (h : why.Arises s ms) : ∃ p ∈ failureBeginnings, ∃ rest, why.message = p ++ rest := by
  cases h with
  | @unbound _ _ m _ _ _ =>
    cases m with
    | name x => exact ⟨"? $", by decide, x, rfl⟩
    | line k => exact ⟨"? $", by decide, String.ofList (Numeral.ofInt k), rfl⟩
  | infinite negative => cases negative <;> exact beginning_self (by decide)
  | notANumber => exact beginning_self (by decide)

theorem beginning_of_failure {text : String} {s : Scope} {why : Fault}
    (failed : (evaluateText text s).1 = .failure why) :
    ∃ p ∈ failureBeginnings, ∃ rest, why.message = p ++ rest := by
  cases parsed : parseText text with
  | tree e =>
    rcases (derives_of_parseText parsed).fault_cases parsed failed with rfl | arises
    · exact beginning_self (by decide)
    · exact arises.beginning
  | refused cause position =>
    rw [evaluateText, parsed] at failed
    obtain rfl := Outcome.failure.inj failed
    obtain ⟨body, stop, tokens, ends⟩ := exists_endsWithStop text
    rw [parseText, tokens] at parsed
    obtain ⟨rest, read, -⟩ := ends.exists_of_refused parsed
    have blames := (read ▸ readAll_within _ : Ends _ _ (.error _)).of_error.blames
    exact blames.beginning (ends.ne_unreadableNumber read)
  | empty =>
    rw [evaluateText, parsed] at failed
    contradiction

/-- Every text is answered, in every scope. No token stops the work on it; a reference with more
digits than are read is refused at its place exactly if an operand is due there and the line is not
nested too deeply before; and no message is about a function that is not known. -/
theorem evaluateText_answers (text : String) :
    (∀ number position, parseText text ≠ .refused (.unreadableNumber number) position) ∧
      (∀ s sheet, Session.evaluateText text s sheet = .ok (evaluateText text s) sheet) ∧
      (∀ t ∈ tokenize text, t.WellMade) ∧
      (∀ before t after, tokenize text = before ++ t :: after → t.kind = .lineRef →
        Numeral.digitLimit < t.text.length →
        (RefusesReference text t ↔ OperandDue (before.map Token.toLexeme) ∧
          ∀ position, parseText text ≠ .refused .tooDeep position)) ∧
      ∀ s why, (evaluateText text s).1 = .failure why →
        ∀ rest, why.message ≠ "Unknown function" ++ rest := by
  refine ⟨parseText_ne_unreadableNumber text, fun s sheet => by rw [Session.evaluateText_eq]; rfl,
    fun t ht => wellMade_of_mem_tokenize ht, fun before t after tokens hk long => ?_,
    fun s why failed => ne_append_of_mem (by decide) (beginning_of_failure failed)⟩
  have member : t ∈ tokenize text := by simp [tokens]
  have unread := ((wellMade_of_mem_tokenize member).reference hk).2.2.mpr long
  have unreadable : lineNumber? t.text = none := by rw [lineNumber?, unread]; rfl
  rw [refusesReference_iff, parseText_refuses_iff tokens hk unreadable]

/-! A text that is one reference. -/

private theorem tokenize_reference {ds : List Char} (some : ds ≠ [])
    (digits : ∀ c ∈ ds, isDigit c = true) : ∃ stop : Token, stop.kind = .stop ∧
      tokenize (String.ofList ('$' :: ds)) = [⟨⟨.lineRef, String.ofList ds⟩, 0⟩, stop] := by
  refine ⟨⟨⟨.stop, ""⟩, (String.ofList ('$' :: ds)).length⟩, rfl, ?_⟩
  rw [tokenize, scan, String.toList_ofList, cut_reference some digits]
  rfl

private theorem flat_reference {x : Lexeme} (hx : x.kind = .lineRef) : Flat [x] := by
  have kind : ∀ y ∈ [x], y.kind = .lineRef := fun y hy => List.mem_singleton.mp hy ▸ hx
  refine ⟨fun y hy => ?_, fun y hy => ?_, fun y hy => ?_, fun signed => ?_⟩
  · simp [kind y hy]
  · simp [kind y hy]
  · simp [kind y hy]
  · generalize whole : [x] = xs at signed
    cases signed with
    | front _ sign =>
      rw [← (List.cons.inj whole).1, hx] at sign
      contradiction
    | after front back _ _ =>
      have length := congrArg List.length whole
      simp only [List.length_append, List.length_cons, List.length_nil] at length
      omega

theorem evaluateText_answers_overlong :
    ∃ t stop, tokenize (String.ofList ('$' :: List.replicate (Numeral.digitLimit + 1) '1')) =
        [] ++ t :: [stop] ∧ t.kind = .lineRef ∧ Numeral.digitLimit < t.text.length ∧
      RefusesReference (String.ofList ('$' :: List.replicate (Numeral.digitLimit + 1) '1')) t := by
  have length : (List.replicate (Numeral.digitLimit + 1) '1').length = Numeral.digitLimit + 1 :=
    List.length_replicate
  have digits : ∀ c ∈ List.replicate (Numeral.digitLimit + 1) '1', isDigit c = true := by
    intro c hc
    rw [List.eq_of_mem_replicate hc]
    decide
  generalize List.replicate (Numeral.digitLimit + 1) '1' = ds at length digits ⊢
  have some : ds ≠ [] := List.ne_nil_of_length_eq_add_one length
  obtain ⟨stop, hstop, tokens⟩ := tokenize_reference some digits
  have long : Numeral.digitLimit < (String.ofList ds).length := by
    rw [String.length_ofList, length]
    exact Nat.lt_succ_self _
  have ends : EndsWithStop [⟨⟨.lineRef, String.ofList ds⟩, 0⟩] stop :=
    ⟨hstop, by simp, by simp⟩
  have shallow (position : Int) :
      parseText (String.ofList ('$' :: ds)) ≠ .refused .tooDeep position := by
    rw [parseText, tokens]
    exact ends.parse_ne_tooDeep (flat_reference rfl) position
  have due : OperandDue (List.map Token.toLexeme []) :=
    ⟨[], .line 1, .sum (.product (.factor (.power (.unary (.primary (.line rfl (by decide)))))))⟩
  obtain ⟨-, -, -, refused, -⟩ := evaluateText_answers (String.ofList ('$' :: ds))
  exact ⟨_, stop, tokens, rfl, long, (refused [] _ [stop] tokens rfl long).mpr ⟨due, shallow⟩⟩

end Worksheet

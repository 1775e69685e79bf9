import Worksheet.Display
import Worksheet.Proofs.Answers
import Worksheet.Proofs.Binary64.Bits

/-!
What is shown for a line. It follows from the outcome and the cause of a failure: marks hold no
blanks, so none makes a message look like one of another cause, and numbers are shown in characters
of their own (`evaluateText_shown`).
-/

set_option autoImplicit false
set_option relaxedAutoImplicit false

namespace Worksheet

open Text

/-! ## Phrases in messages -/

private theorem occursIn_iff {phrase cs : List Char} :
    occursIn phrase cs = true ↔ phrase <:+: cs := by
  induction cs with
  | nil => rw [occursIn, List.isEmpty_iff, List.infix_nil]
  | cons c cs ih =>
    rw [occursIn, Bool.or_eq_true, List.isPrefixOf_iff_prefix, ih, List.infix_cons_iff]

private theorem infix_of_infix_append {lead rest front tail : List Char}
    (h : lead ++ ' ' :: rest <:+: front ++ tail) (solid : ' ' ∉ tail) :
    lead ++ [' '] <:+: front := by
  obtain ⟨before, after, split⟩ := h
  have split : (before ++ lead ++ [' ']) ++ (rest ++ after) = front ++ tail := by simpa using split
  rcases List.append_eq_append_iff.mp split with ⟨back, hfront, -⟩ | ⟨back, hlead, htail⟩
  · exact ⟨before, back, by simp [hfront]⟩
  · rcases List.eq_nil_or_concat back with rfl | ⟨start, c, rfl⟩
    · exact ⟨before, [], by simpa using hlead⟩
    · rw [List.concat_eq_append, ← List.append_assoc] at hlead
      obtain ⟨-, last⟩ := List.append_inj' hlead rfl
      obtain rfl := List.singleton_inj.mp last
      exact absurd (by simp [htail]) solid

private theorem toLower_eq_blank {c : Char} (h : c.toLower = ' ') : c = ' ' := by
  unfold Char.toLower at h
  split at h
  · next capital =>
    have low : 65 ≤ c.val.toNat := UInt32.le_iff_toNat_le.mp capital.1
    have high : c.val.toNat ≤ 90 := UInt32.le_iff_toNat_le.mp capital.2
    have moved : (c.val.toNat + 32) % 2 ^ 32 = 32 := congrArg (fun d => d.val.toNat) h
    omega
  · exact h

private theorem occursIn_append (lead rest : String) {front tail : String}
    (solid : ' ' ∉ tail.toList) {phrase : List Char}
    (split : phrase = lead.toList ++ ' ' :: rest.toList)
    (h : occursIn (lead.toList ++ [' ']) (front.toList.map Char.toLower) = false) :
    occursIn phrase ((front ++ tail).toList.map Char.toLower) = false := by
  have solid' : ' ' ∉ tail.toList.map Char.toLower := by
    intro h
    obtain ⟨d, hd, blank⟩ := List.mem_map.mp h
    exact solid (toLower_eq_blank blank ▸ hd)
  refine Bool.eq_false_iff.mpr fun found => Bool.eq_false_iff.mp h (occursIn_iff.mpr ?_)
  rw [split, String.toList_append, List.map_append] at found
  exact infix_of_infix_append (occursIn_iff.mp found) solid'

private theorem not_mark {message : String} {c : Char} (head : message.toList.head? = some c)
    (known : c ∉ ['∞', '-', 'N']) : ¬ (message = "∞" ∨ message = "-∞" ∨ message = "NaN") := by
  have first {text : String} (h : text.toList.head?.any (['∞', '-', 'N'].contains ·) = true) :
      message ≠ text := by
    rintro rfl
    rw [head, Option.any_some, List.contains_iff_mem] at h
    exact known h
  rintro (same | same | same)
  · exact first (by decide) same
  · exact first (by decide) same
  · exact first (by decide) same

private theorem showMessage_append {front tail : String} {c : Char} (solid : ' ' ∉ tail.toList)
    (head : front.toList.head? = some c) (known : c ∉ ['∞', '-', 'N'])
    (name : occursIn "undefined ".toList (front.toList.map Char.toLower) = false)
    (line : occursIn "invalid line ".toList (front.toList.map Char.toLower) = false) :
    showMessage (front ++ tail) = if c = '?' then front ++ tail else "?" := by
  have noName : occursIn "undefined variable".toList _ = false :=
    occursIn_append "undefined" "variable" solid (by decide) name
  have noLine : occursIn "invalid line reference".toList _ = false :=
    occursIn_append "invalid line" "reference" solid (by decide) line
  have first : (front ++ tail).toList.head? = some c := by
    rw [String.toList_append, List.head?_append, head, Option.some_or]
  unfold showMessage
  dsimp only
  rw [if_neg (not_mark first known), if_neg (Bool.eq_false_iff.mp noName),
    if_neg (Bool.eq_false_iff.mp noLine), first]
  simp only [Option.some.injEq]

/-! ## Marks -/

private theorem Lexeme.FitsBefore.isBlank_eq_false {x : Lexeme} {rest : List Char}
    (h : x.FitsBefore rest) {c : Char} (hc : c ∈ x.text.toList) : isBlank c = false := by
  have word {d : Char} (hd : isWord d = true) : isBlank d = false :=
    Bool.eq_false_iff.mpr fun blank =>
      Bool.eq_false_iff.mp (isWord_of_isBlank blank) hd
  have fits := h
  obtain ⟨d, body, blank, hx, hread⟩ := h
  have reads := hread ▸ reads_read d (body ++ rest)
  cases reads with
  | number _ =>
    rcases (fits.isDecimal rfl).char hc with digit | rfl
    · exact isBlank_of_isDigit digit
    · decide
  | lineRef _ _ =>
    rw [String.toList_ofList] at hc
    exact isBlank_of_isDigit (List.mem_takeWhile_imp hc)
  | name _ _ _ =>
    rw [String.toList_ofList] at hc
    exact word (List.mem_takeWhile_imp hc)
  | lone _ _ =>
    obtain rfl := List.mem_singleton.mp hc
    decide
  | sign _ _ =>
    rw [String.toList_ofList] at hc
    exact List.mem_singleton.mp hc ▸ blank
  | word _ _ =>
    rw [String.toList_ofList] at hc
    exact word (List.mem_takeWhile_imp hc)
  | other _ =>
    rw [String.toList_ofList] at hc
    exact List.mem_singleton.mp hc ▸ blank

private theorem not_mem_of_mem_lexemes {text : String} {x : Lexeme} (h : x ∈ lexemes text) :
    ' ' ∉ x.text.toList := by
  obtain ⟨rest, fits⟩ := exists_fitsBefore h
  intro blank
  exact Bool.eq_false_iff.mp (fits.isBlank_eq_false blank) (by decide)

private theorem mem_upToInvalidMark {xs : List Lexeme} {x : Lexeme} (h : x ∈ upToInvalidMark xs) :
    x ∈ xs ∨ x = ⟨.stop, ""⟩ := by
  induction xs with
  | nil => exact .inr (List.mem_singleton.mp h)
  | cons y ys ih =>
    rw [upToInvalidMark] at h
    split at h
    · rcases List.mem_pair.mp h with rfl | rfl
      · exact .inl List.mem_cons_self
      · exact .inr rfl
    · rcases List.mem_cons.mp h with rfl | h
      · exact .inl List.mem_cons_self
      · exact (ih h).imp_left (List.mem_cons_of_mem y)

private theorem exists_blames_of_refused {text : String} {why : SyntaxError} {position : Int}
    (h : parseText text = .refused why position) :
    ∃ rest, why.Blames rest ∧ ∀ x ∈ rest, x ∈ lexemes text ∨ x = ⟨.stop, ""⟩ := by
  obtain ⟨body, stop, tokens, ends⟩ := exists_endsWithStop text
  rw [parseText, tokens] at h
  obtain ⟨rest, read, -⟩ := ends.exists_of_refused h
  have within := (read ▸ readAll_within _ : Ends _ _ (.error _)).of_error
  refine ⟨rest, within.blames, fun x hx => mem_upToInvalidMark ?_⟩
  rw [← map_tokenize, tokens, List.map_append]
  exact within.suffix.subset hx

/-! ## Numbers -/

def isNumeral (c : Char) : Bool := c.isDigit || ['-', '.', 'e', '+'].contains c

private theorem isNumeral_toDigits (n : Nat) : ∀ c ∈ Nat.toDigits 10 n, isNumeral c = true := by
  intro c hc
  simp [isNumeral, Nat.isDigit_of_mem_toDigits (by decide) (by decide) hc]

private theorem isNumeral_ofInt (k : Int) : ∀ c ∈ Numeral.ofInt k, isNumeral c = true := by
  unfold Numeral.ofInt
  split
  · exact List.forall_mem_cons.mpr ⟨by decide, isNumeral_toDigits _⟩
  · exact isNumeral_toDigits _

private theorem ofInt_ne_nil (k : Int) : Numeral.ofInt k ≠ [] := by
  unfold Numeral.ofInt
  split
  · exact List.cons_ne_nil _ _
  · exact Numeral.ofNat_ne_nil _

private theorem isNumeral_zeros (n : Nat) : ∀ c ∈ List.replicate n '0', isNumeral c = true := by
  intro c hc
  rw [List.eq_of_mem_replicate hc]
  decide

private theorem isNumeral_significantDigits (d : Nat) :
    ∀ c ∈ Numeral.significantDigits d, isNumeral c = true := by
  intro c hc
  have among := (List.dropWhile_sublist _).subset (List.mem_reverse.mp hc)
  exact isNumeral_toDigits d c (List.mem_reverse.mp among)

private theorem isNumeral_byPosition {ds : List Char} (digits : ∀ c ∈ ds, isNumeral c = true)
    (x : Int) : ∀ c ∈ Numeral.byPosition false ds x, isNumeral c = true := by
  unfold Numeral.byPosition
  split
  · simp only [List.cons_append, List.forall_mem_cons, List.forall_mem_append]
    exact ⟨by decide, by decide, isNumeral_zeros _, digits⟩
  · have whole (n k : Nat) : ∀ c ∈ ds.take n ++ List.replicate k '0', isNumeral c = true :=
      List.forall_mem_append.mpr ⟨fun c hc => digits c (List.mem_of_mem_take hc), isNumeral_zeros k⟩
    dsimp only
    split
    · rw [if_neg (by decide), List.append_nil]
      exact whole _ _
    · next fraction _ =>
      refine List.forall_mem_append.mpr ⟨whole _ _, List.forall_mem_cons.mpr ⟨by decide, ?_⟩⟩
      exact fun c hc => digits c (List.mem_of_mem_drop hc)

private theorem isNumeral_byPower {ds : List Char} (digits : ∀ c ∈ ds, isNumeral c = true)
    (x : Int) : ∀ c ∈ Numeral.byPower ds x, isNumeral c = true := by
  have sign : isNumeral (if x < 0 then '-' else '+') = true := by split <;> decide
  unfold Numeral.byPower
  simp only [List.forall_mem_append, List.forall_mem_cons]
  refine ⟨?_, by decide, sign, isNumeral_zeros _, isNumeral_toDigits _⟩
  split
  · exact nofun
  · exact digits
  · rw [List.forall_mem_cons] at digits
    exact List.forall_mem_cons.mpr ⟨digits.1, List.forall_mem_cons.mpr ⟨by decide, digits.2⟩⟩

private theorem byPosition_ne_nil (ds : List Char) (x : Int) :
    Numeral.byPosition false ds x ≠ [] := by
  unfold Numeral.byPosition
  split
  · exact List.cons_ne_nil _ _
  · have whole : ds.take (x.toNat + 1) ++ List.replicate (x.toNat + 1 - ds.length) '0' ≠ [] := by
      refine List.ne_nil_of_length_eq_add_one (n := x.toNat) ?_
      simp only [List.length_append, List.length_take, List.length_replicate]
      omega
    dsimp only
    split <;> exact List.append_ne_nil_of_left_ne_nil whole _

theorem isNumeral_showNumber {v : Float} (finite : v.isFinite = true) :
    (showNumber v).toList ≠ [] ∧ ∀ c ∈ (showNumber v).toList, isNumeral c = true := by
  obtain ⟨negative, m, q, parts⟩ := Binary64.isFinite_iff.mp finite
  have quotient (num den : Nat) : showQuotient num den ≠ [] ∧
      ∀ c ∈ showQuotient num den, isNumeral c = true := by
    unfold showQuotient Numeral.Layout.write
    dsimp only
    split
    · exact ⟨byPosition_ne_nil _ _, isNumeral_byPosition (isNumeral_significantDigits _) _⟩
    · refine ⟨?_, isNumeral_byPower (isNumeral_significantDigits _) _⟩
      exact List.append_ne_nil_of_right_ne_nil _ (List.cons_ne_nil _ _)
  unfold showNumber
  dsimp only
  rw [parts]
  dsimp only
  split
  · rw [String.toList_ofList]
    exact ⟨ofInt_ne_nil _, isNumeral_ofInt _⟩
  · rw [String.toList_ofList]
    refine ⟨List.append_ne_nil_of_right_ne_nil _ (quotient _ _).1, ?_⟩
    refine List.forall_mem_append.mpr ⟨?_, (quotient _ _).2⟩
    cases negative <;> simp [isNumeral]

/-! ## Lines -/

/-- What is shown for the outcome of a text in a scope. A variable or a reference without a value is
shown by its name or its number, a reference that no line can have by its digits as they are
written; and a number is shown so that it is none of the texts for failures. -/
inductive Shown (text : String) (s : Scope) : Outcome → String → Prop
  | blank : Shown text s .blank ""
  | value {v : Float} {shown : String} (finite : v.isFinite = true)
      (apart : shown ∉ ["", "?", "NaN", "∞", "-∞"]) (first : shown.toList.head? ≠ some '?') :
      Shown text s (.value v) shown
  | unboundName {x : Lexeme} (mark : x ∈ lexemes text) (kind : x.kind = .name)
      (lacks : s.variableValue? x.text = none) :
      Shown text s (.failure (.unboundName x.text)) ("? $" ++ x.text)
  | unboundLine {x : Lexeme} {k : Int} (mark : x ∈ lexemes text) (kind : x.kind = .lineRef)
      (number : lineNumber? x.text = some k) (lacks : s.lineValue? k = none) :
      Shown text s (.failure (.unboundLine k)) ("? $" ++ String.ofList (Numeral.ofInt k))
  | infinite (negative : Bool) :
      Shown text s (.failure (.infinite negative)) (if negative then "-∞" else "∞")
  | notANumber : Shown text s (.failure .notANumber) "NaN"
  | lineOutOfRange {x : Lexeme} (mark : x ∈ lexemes text) (kind : x.kind = .lineRef)
      (none : lineNumber? x.text = none) :
      Shown text s (.failure (.refused (.lineOutOfRange x.text))) ("? $" ++ x.text)
  | refused {why : SyntaxError} (other : ∀ digits, why ≠ .lineOutOfRange digits) :
      Shown text s (.failure (.refused why)) "?"
  | tooDeep : Shown text s (.failure .tooDeep) "?"

private theorem showMessage_unexpected {text : String} (solid : ' ' ∉ text.toList) :
    showMessage ("Unexpected token: " ++ text) = "?" :=
  showMessage_append (c := 'U') solid (by decide) (by decide) (by decide) (by decide)

private theorem showMessage_invalid {text : String} (solid : ' ' ∉ text.toList) :
    showMessage ("Invalid token: " ++ text) = "?" :=
  showMessage_append (c := 'I') solid (by decide) (by decide) (by decide) (by decide)

private theorem showMessage_unbound {text : String} (solid : ' ' ∉ text.toList) :
    showMessage ("? $" ++ text) = "? $" ++ text :=
  showMessage_append (c := '?') solid (by decide) (by decide) (by decide) (by decide)

private theorem showMessage_lineOutOfRange {digits : String} (some : digits.toList ≠ [])
    (inside : ∀ c ∈ digits.toList, isDigit c = true) (solid : ' ' ∉ digits.toList) :
    showMessage ("Invalid line reference: $" ++ digits) = "? $" ++ digits := by
  have noName : occursIn "undefined variable".toList
      (("Invalid line reference: $" ++ digits).toList.map Char.toLower) = false :=
    occursIn_append "undefined" "variable" solid (by decide) (by decide)
  have line : occursIn "invalid line reference".toList
      (("Invalid line reference: $" ++ digits).toList.map Char.toLower) = true := by
    have front : "Invalid line reference: $".toList.map Char.toLower =
        "invalid line reference".toList ++ ": $".toList := by decide
    rw [occursIn_iff, String.toList_append, List.map_append, front, List.append_assoc]
    exact (List.prefix_append _ _).isInfix
  have mark : firstMark isDigit ("Invalid line reference: $" ++ digits).toList =
      '$' :: digits.toList := by
    obtain ⟨d, ds, split⟩ := List.exists_cons_of_ne_nil some
    have first : isDigit d = true := inside d (split ▸ List.mem_cons_self)
    have found : firstMark isDigit ('$' :: digits.toList) = '$' :: digits.toList := by
      rw [firstMark, if_pos (by simp [split, first]), List.takeWhile_eq_self_iff.mpr inside]
    rw [String.toList_append]
    exact found
  have head : ("Invalid line reference: $" ++ digits).toList.head? = Option.some 'I' := by
    rw [String.toList_append]
    rfl
  unfold showMessage
  dsimp only
  rw [if_neg (not_mark head (by decide)), if_neg (Bool.eq_false_iff.mp noName), if_pos line, mark]
  apply String.toList_inj.mp
  simp

private theorem display_infinite (negative : Bool) :
    (Fault.infinite negative).display = if negative then "-∞" else "∞" := by
  cases negative <;> decide

private theorem shown_of_blames {text : String} {s : Scope} {why : SyntaxError}
    {rest : List Lexeme} (blames : why.Blames rest)
    (marks : ∀ x ∈ rest, x ∈ lexemes text ∨ x = ⟨.stop, ""⟩)
    (readable : ∀ number, why ≠ .unreadableNumber number) :
    Shown text s (.failure (.refused why)) (Fault.refused why).display := by
  have solid {x : Lexeme} {xs : List Lexeme} (h : rest = x :: xs) : ' ' ∉ x.text.toList := by
    rcases marks x (h ▸ List.mem_cons_self) with mark | rfl
    · exact not_mem_of_mem_lexemes mark
    · exact List.not_mem_nil
  have other (h : (Fault.refused why).display = "?")
      (apart : ∀ digits, why ≠ .lineOutOfRange digits) :
      Shown text s (.failure (.refused why)) (Fault.refused why).display :=
    h ▸ .refused apart
  cases blames with
  | exhausted => exact other (by decide) nofun
  | stop _ => exact other (by decide) nofun
  | unexpected x xs => exact other (showMessage_unexpected (solid rfl)) nofun
  | invalid _ => exact other (showMessage_invalid (solid rfl)) nofun
  | missingArgument _ => exact other (by decide) nofun
  | missingParen _ => exact other (by decide) nofun
  | @lineOutOfRange x xs hx none =>
    have mark : x ∈ lexemes text := by
      refine (marks x List.mem_cons_self).resolve_right ?_
      rintro rfl
      contradiction
    obtain ⟨after, fits⟩ := exists_fitsBefore mark
    obtain ⟨some, inside, -⟩ := fits.digits hx
    have digits : (Fault.refused (.lineOutOfRange x.text)).display = "? $" ++ x.text :=
      showMessage_lineOutOfRange some inside (solid rfl)
    exact digits ▸ .lineOutOfRange mark hx none
  | unreadableNumber _ _ => exact absurd rfl (readable _)
  | tooDeep _ => exact other (by decide) nofun

private theorem shown_of_arises {text : String} {s : Scope} {ms : List Mention} {why : Fault}
    (h : why.Arises s ms)
    (marks : ∀ m ∈ ms, ∃ x ∈ lexemes text, x.mention? = some m) :
    Shown text s (.failure why) why.display := by
  cases h with
  | @unbound before after m split bound lacks =>
    obtain ⟨x, mark, mention⟩ := marks m (split ▸ List.mem_append_right _ List.mem_cons_self)
    unfold Lexeme.mention? at mention
    split at mention
    · next kind =>
      obtain rfl := Option.some.inj mention
      have name : (Fault.unboundName x.text).display = "? $" ++ x.text :=
        showMessage_unbound (not_mem_of_mem_lexemes mark)
      exact name ▸ .unboundName mark kind
        (Option.eq_none_iff_forall_ne_some.mpr fun v hv => lacks ⟨v, hv⟩)
    · next kind =>
      obtain ⟨k, number, rfl⟩ := Option.map_eq_some_iff.mp mention
      have line : (Fault.unboundLine k).display = "? $" ++ String.ofList (Numeral.ofInt k) := by
        refine showMessage_unbound fun blank => ?_
        rw [String.toList_ofList] at blank
        exact absurd (isNumeral_ofInt k _ blank) (by decide)
      exact line ▸ .unboundLine mark kind number
        (Option.eq_none_iff_forall_ne_some.mpr fun v hv => lacks ⟨v, hv⟩)
    · contradiction
  | infinite negative => exact display_infinite negative ▸ .infinite negative
  | notANumber => exact .notANumber

private theorem shown_of_value {text : String} {s : Scope} {v : Float}
    (finite : v.isFinite = true) : Shown text s (.value v) (showNumber v) := by
  obtain ⟨some, inside⟩ := isNumeral_showNumber finite
  have apart {shown : String} (h : shown.toList.all isNumeral = false) : showNumber v ≠ shown := by
    rintro rfl
    rw [List.all_eq_true.mpr inside] at h
    contradiction
  refine .value finite ?_ fun first => ?_
  · simp only [List.mem_cons, List.not_mem_nil, or_false, not_or]
    refine ⟨fun empty => some (empty ▸ rfl), ?_, ?_, ?_, ?_⟩
    · exact apart (by decide)
    · exact apart (by decide)
    · exact apart (by decide)
    · exact apart (by decide)
  · exact absurd (inside '?' (List.mem_of_head? first)) (by decide)

private theorem Shown.ne_empty {text shown : String} {s : Scope} {r : Outcome}
    (h : Shown text s r shown) (some : r ≠ .blank) : shown ≠ "" := by
  cases h with
  | blank => contradiction
  | value _ apart _ => exact fun empty => apart (empty ▸ List.mem_cons_self)
  | infinite negative => cases negative <;> decide
  | unboundName _ _ _ => simp
  | unboundLine _ _ _ _ => simp
  | lineOutOfRange _ _ _ => simp
  | notANumber => decide
  | refused _ => decide
  | tooDeep => decide

/-- What a line displays follows from its outcome and the cause of a failure, whatever the marks of
its text are; and only what is blank shows nothing. -/
theorem evaluateText_shown (text : String) (s : Scope) :
    Shown text s (evaluateText text s).1 (evaluateText text s).1.display ∧
      ((evaluateText text s).1.display = "" ↔ (evaluateText text s).1 = .blank) := by
  have shown : Shown text s (evaluateText text s).1 (evaluateText text s).1.display := by
    generalize outcome : (evaluateText text s).1 = r
    cases r with
    | blank => exact .blank
    | value v =>
      obtain ⟨-, -, -, -, finite, -⟩ := evaluateText_eq_value outcome
      exact shown_of_value finite
    | failure why =>
      rw [Outcome.display]
      cases parsed : parseText text with
      | empty =>
        rw [evaluateText, parsed] at outcome
        contradiction
      | refused cause position =>
        rw [evaluateText, parsed] at outcome
        obtain rfl := Outcome.failure.inj outcome
        obtain ⟨rest, blames, marks⟩ := exists_blames_of_refused parsed
        refine shown_of_blames blames marks fun number unreadable => ?_
        exact parseText_ne_unreadableNumber text number position (unreadable ▸ parsed)
      | tree e =>
        have line := derives_of_parseText parsed
        rcases line.fault_cases parsed outcome with rfl | arises
        · have deep : Fault.tooDeep.display = "?" := by decide
          exact deep ▸ .tooDeep
        · refine shown_of_arises arises fun m hm => ?_
          rw [line.mentions] at hm
          obtain ⟨x, hx, mention⟩ := List.mem_filterMap.mp hm
          exact ⟨x, mem_of_mem_withoutTarget hx, mention⟩
  refine ⟨shown, fun empty => ?_, fun blank => by rw [blank]; rfl⟩
  by_contra some
  exact shown.ne_empty some empty

example : (evaluateText "undefined variable $x" .empty).1.display = "?" := by decide +kernel

end Worksheet

import Worksheet.Proofs.Expr.Earliest
import Worksheet.Proofs.Sheet.Pass

/-!
The kind of a text beside its marks and its reading. A text is blank when it has no mark, and a
comment when its first mark is a lone number sign, at which reading then stops (`LineKind.Agrees`).
So all that looks at a line goes by the same kind (`lineKind_agrees`), and renumbering keeps it.
-/

set_option autoImplicit false
set_option relaxedAutoImplicit false

namespace Worksheet

open Text

def indent (text : String) : Nat := (text.toList.takeWhile isBlank).length

def numberSign : Lexeme := ⟨.invalid, "#"⟩

/-! ## The first mark -/

private theorem Lexeme.read_eq_numberSign {c : Char} {rest : List Char} :
    (Lexeme.read c rest).1 = numberSign ↔ c = '#' := by
  constructor
  · intro mark
    obtain ⟨body, spelled, -⟩ := exists_spelling_read c rest
    rw [mark] at spelled
    exact (List.cons.inj spelled).1.symm
  · rintro rfl
    have digit : isDigit '#' = false := by decide
    have number : startsNumber '#' rest = false := by
      rw [startsNumber, digit]
      rfl
    rw [read_other number (by decide) rfl (by decide +kernel)]
    rfl

private theorem scan_cases (text : String) :
    (text.toList.dropWhile isBlank = [] ∧ scan text = [] ∧ indent text = text.length) ∨
      ∃ c rest ts, text.toList.dropWhile isBlank = c :: rest ∧
        scan text = ⟨(Lexeme.read c rest).1, indent text⟩ :: ts := by
  unfold scan cut
  split
  · next none =>
    have whole := List.takeWhile_append_dropWhile (p := isBlank) (l := text.toList)
    rw [none, List.append_nil] at whole
    refine .inl ⟨none, rfl, ?_⟩
    rw [indent, whole, String.length_toList]
  · next c rest more =>
    dsimp only
    rw [tokensFrom, Nat.zero_add]
    exact .inr ⟨c, rest, _, more, rfl⟩

private theorem tokenize_head (text : String) :
    ∃ t ts, tokenize text = t :: ts ∧ t.position = indent text ∧
      (t.kind = .stop ∨ ∃ us, scan text = t :: us) := by
  unfold tokenize
  rcases scan_cases text with ⟨-, none, blank⟩ | ⟨c, rest, us, -, first⟩
  · exact ⟨_, [], by rw [none]; rfl, by rw [blank], .inl rfl⟩
  · rw [first, upToInvalid]
    split <;> exact ⟨_, _, rfl, rfl, .inr ⟨us, rfl⟩⟩

/-! ## Reading a comment -/

private theorem parse_numberSign (place finish : Int) :
    parse [⟨numberSign, place⟩, ⟨⟨.stop, ""⟩, finish⟩] = .refused (.invalid "#") place := by
  have read : readAll [numberSign, ⟨.stop, ""⟩] =
      .error ⟨.invalid "#", [numberSign, ⟨.stop, ""⟩]⟩ := rfl
  simp [parse, isVacant, read, offsetFromEnd]

private theorem SyntaxError.Blames.numberSign {why : SyntaxError} {xs : List Lexeme}
    (blames : why.Blames xs) (message : why.message = "Invalid token: #") :
    ∃ rest, xs = Worksheet.numberSign :: rest := by
  have other {front text : String} (apart : ¬ front.toList <+: "Invalid token: #".toList) :
      front ++ text ≠ "Invalid token: #" := by
    intro same
    rw [← same, String.toList_append] at apart
    exact apart (List.prefix_append front.toList text.toList)
  cases blames with
  | @invalid x rest kind =>
    have text : x.text = "#" := (String.append_right_inj "Invalid token: ").mp message
    refine ⟨rest, ?_⟩
    rw [Worksheet.numberSign, ← kind, ← text]
  | exhausted => exact absurd message (by decide)
  | stop _ => exact absurd message (by decide)
  | unexpected => exact absurd message (other (by decide))
  | missingArgument => exact absurd message (by decide)
  | missingParen => exact absurd message (by decide)
  | lineOutOfRange _ _ => exact absurd message (other (by decide))
  | unreadableNumber _ _ => exact absurd message (other (by decide))
  | tooDeep => exact absurd message (by decide)

private theorem exists_numberSign_of_refused {text : String} {why : SyntaxError} {position : Int}
    (refused : parseText text = .refused why position)
    (message : why.message = "Invalid token: #") :
    ∃ before t after, tokenize text = before ++ t :: after ∧ t.toLexeme = numberSign ∧
      t.position = position := by
  obtain ⟨body, stop, tokens, ends⟩ := exists_endsWithStop text
  rw [parseText, tokens] at refused
  obtain ⟨xs, read, place⟩ := ends.exists_of_refused refused
  have within := (read ▸ readAll_within _ : Ends _ _ (.error _)).of_error
  obtain ⟨rest, rfl⟩ : ∃ rest, xs = numberSign :: rest := within.blames.numberSign message
  obtain ⟨front, whole⟩ := within.suffix
  rw [← List.map_singleton, ← List.map_append, ← tokens] at whole
  obtain ⟨before, back, split, -, hback⟩ := List.map_eq_append_iff.mp whole.symm
  obtain ⟨t, after, rfl, mark, rest⟩ := List.map_eq_cons_iff.mp hback
  refine ⟨before, t, after, split, mark, ?_⟩
  rw [place, ← tokens, split, ← rest, List.length_cons, List.length_map, offsetFromEnd_append]

theorem refused_numberSign_iff {text : String} :
    (∃ why, parseText text = .refused why (indent text) ∧ why.message = "Invalid token: #") ↔
      ∃ ts, scan text = ⟨numberSign, indent text⟩ :: ts := by
  constructor
  · rintro ⟨why, refused, message⟩
    obtain ⟨before, t, after, split, mark, place⟩ := exists_numberSign_of_refused refused message
    obtain ⟨first, rest, tokens, start, stands⟩ := tokenize_head text
    have ordered := (tokenize_ordered text).1
    rw [split] at tokens ordered
    cases before with
    | nil =>
      obtain ⟨rfl, rfl⟩ := List.cons.inj tokens
      rw [← mark, ← place]
      refine stands.resolve_left ?_
      rw [mark]
      exact nofun
    | cons u us =>
      obtain ⟨rfl, -⟩ := List.cons.inj tokens
      have before : u.position < t.position := List.rel_of_pairwise_cons ordered (by simp)
      omega
  · rintro ⟨ts, first⟩
    refine ⟨.invalid "#", ?_, rfl⟩
    rw [parseText, tokenize, first]
    exact parse_numberSign _ _

/-! ## Renumbering -/

private theorem Lexeme.head?_spelling_renumber {f : Nat → Int} {x y : Lexeme}
    (h : x.renumber f = .ok y) : y.spelling.head? = x.spelling.head? := by
  unfold renumber at h
  cases number : x.reference? with
  | none =>
    rw [number] at h
    rw [Except.ok.inj h]
  | some k =>
    simp only [number] at h
    split at h
    · rw [Except.ok.inj h]
    · split at h
      · have kind := kind_of_reference? number
        rw [← Except.ok.inj h]
        simp [spelling, kind, TokenKind.hasSigil]
      · cases h

private theorem head?_dropWhile_spelling {p : Piece} {ps : List Piece} {tail : List Char} {c : Char}
    (gap : ∀ c ∈ p.gap, isBlank c = true) (first : p.lexeme.spelling.head? = some c)
    (solid : isBlank c = false) :
    ((Cut.spelling ⟨p :: ps, tail⟩).dropWhile isBlank).head? = some c := by
  obtain ⟨body, spelled⟩ := List.head?_eq_some_iff.mp first
  rw [Cut.spelling_cons, spelled, List.cons_append, (span_of_boundary gap (by simpa using solid)).2]
  rfl

theorem LineKind.ofText_renumber {f : Nat → Int} {text text' : String}
    (h : renumber f text = .ok text') : LineKind.ofText text' = LineKind.ofText text := by
  obtain ⟨pieces, moved, rfl⟩ := renumber_eq_ok_iff.mp h
  have whole := spelling_cut text.toList
  have proper := proper_cut text.toList
  rw [LineKind.ofText_eq, LineKind.ofText_eq, String.toList_ofList]
  generalize cut text.toList = line at moved whole proper
  obtain ⟨pieces', tail⟩ := line
  cases moved with
  | nil => rw [← whole]
  | @cons p q ps qs renumbered _ =>
    obtain ⟨gap, ⟨c, body, solid, spelled, -⟩, -⟩ := proper
    obtain ⟨same, mark⟩ := renumber_piece renumbered
    have first : p.lexeme.spelling.head? = some c := by
      rw [spelled]
      rfl
    have first' := (Lexeme.head?_spelling_renumber mark).trans first
    rw [← same] at gap
    rw [← whole, head?_dropWhile_spelling gap first' solid,
      head?_dropWhile_spelling (same ▸ gap) first solid]

/-! ## The kind -/

/-- What a kind of a text says of its tokens, of its reading, of what it is worked out to and of the
texts that it is renumbered to. -/
structure LineKind.Agrees (kind : LineKind) (text : String) : Prop where
  blank_scan : kind = .blank ↔ scan text = []
  blank_parse : kind = .blank ↔ parseText text = .empty
  comment_scan : kind = .comment ↔
    ∃ t, (scan text).head? = some t ∧ t.kind = .invalid ∧ t.text = "#"
  comment_parse : kind = .comment ↔
    ∃ why, parseText text = .refused why (indent text) ∧ why.message = "Invalid token: #"
  expression_text : kind = .expression → ∀ s, (evaluateText text s).1 ≠ .blank
  expression_line : kind = .expression → ∀ n s, (evaluateLine n text s).1 ≠ .blank
  renumbered : ∀ (f : Nat → Int) (text' : String), renumber f text = .ok text' →
    LineKind.ofText text' = kind

private theorem scan_head?_numberSign {text : String} :
    (∃ t, (scan text).head? = some t ∧ t.kind = .invalid ∧ t.text = "#") ↔
      ∃ ts, scan text = ⟨numberSign, indent text⟩ :: ts := by
  constructor
  · rintro ⟨t, head, kind, shown⟩
    rcases scan_cases text with ⟨-, none, -⟩ | ⟨c, rest, ts, -, first⟩
    · rw [none] at head
      exact nomatch head
    · rw [first] at head ⊢
      obtain rfl := Option.some.inj head
      have mark : (Lexeme.read c rest).1 = numberSign := by rw [numberSign, ← kind, ← shown]
      exact ⟨ts, by rw [mark]⟩
  · rintro ⟨ts, first⟩
    exact ⟨⟨numberSign, indent text⟩, by rw [first]; rfl, rfl, rfl⟩

private theorem LineKind.ofText_eq_comment {text : String} :
    LineKind.ofText text = .comment ↔ ∃ ts, scan text = ⟨numberSign, indent text⟩ :: ts := by
  rcases scan_cases text with ⟨none, empty, -⟩ | ⟨c, rest, ts, more, first⟩
  · simp [LineKind.ofText, none, empty]
  · have kind : LineKind.ofText text = if c = '#' then .comment else .expression := by
      rw [LineKind.ofText, more]
    simp [kind, first, Lexeme.read_eq_numberSign]

/-- The sheet, the tokens, the reading and the renumbering of a text go by one kind. -/
theorem lineKind_agrees (text : String) : (LineKind.ofText text).Agrees text := by
  have something (kind : LineKind.ofText text = .expression) (s : Scope) :
      lineOutcome text s ≠ .blank := fun none => lineOutcome_eq_blank.mp none kind
  refine ⟨?_, ?_, ?_, ?_, fun kind s => ?_, fun kind n s => ?_, fun f text' h => ?_⟩
  · rw [LineKind.ofText_eq_blank, ← map_scan, List.map_eq_nil_iff]
  · rw [LineKind.ofText_eq_blank, parseText_eq_empty]
  · rw [LineKind.ofText_eq_comment, scan_head?_numberSign]
  · rw [refused_numberSign_iff, LineKind.ofText_eq_comment]
  · have outcome := something kind s
    rwa [lineOutcome, if_pos kind] at outcome
  · rw [evaluateLine_eq]
    exact something kind s
  · exact LineKind.ofText_renumber h

end Worksheet

import Mathlib.Data.List.Forall2
import Mathlib.Data.List.TakeWhile
import Worksheet.Proofs.Numeral.Digits
import Worksheet.Token

/-!
The cut of a line is unique. A mark is as long as it can be, which the one character after it
decides; so pieces that are each as long as they can be before the next are the cut of their own
spelling (`cut_spelling`), and every cut is of that form (`proper_cut`). A blank ends every mark, so
a blank that is put after one leaves it as it is (`FitsBefore.narrow`).
-/

set_option autoImplicit false
set_option relaxedAutoImplicit false

namespace Worksheet

open Text

theorem span_of_boundary {α : Type} {p : α → Bool} {run rest : List α}
    (inside : ∀ c ∈ run, p c = true) (boundary : rest.head?.any p = false) :
    (run ++ rest).takeWhile p = run ∧ (run ++ rest).dropWhile p = rest := by
  have stops : rest.takeWhile p = [] ∧ rest.dropWhile p = rest := by
    cases rest with
    | nil => exact ⟨rfl, rfl⟩
    | cons c cs =>
      have hc : ¬p c = true := by simpa using boundary
      exact ⟨List.takeWhile_cons_of_neg hc, List.dropWhile_cons_of_neg hc⟩
  rw [List.takeWhile_append_of_pos inside, List.dropWhile_append_of_pos inside, stops.1, stops.2,
    List.append_nil]
  exact ⟨rfl, rfl⟩

private theorem any_head?_dropWhile (p : Char → Bool) (cs : List Char) :
    (cs.dropWhile p).head?.any p = false := by
  have h := List.head?_dropWhile_not p cs
  cases hd : (cs.dropWhile p).head? with
  | none => rfl
  | some c => simpa [hd] using h

namespace Text

private theorem blanks_apart :
    ∀ r ∈ blanks, ∀ w ∈ letters ++ numbers, r.2 < w.1 ∨ w.2 < r.1 := by
  decide +kernel

theorem isWord_of_isBlank {c : Char} (blank : isBlank c = true) : isWord c = false := by
  obtain ⟨r, hr, first, last⟩ := Ranges.has_iff.mp blank
  have apart {ws : Ranges} (within : ws ⊆ letters ++ numbers) : ws.has c = false := by
    refine Bool.eq_false_iff.mpr fun inside => ?_
    obtain ⟨w, hw, low, high⟩ := Ranges.has_iff.mp inside
    have := blanks_apart r hr w (within hw)
    omega
  have digit : isDigit c = false := Bool.eq_false_iff.mpr fun digit => by
    rw [isBlank_of_isDigit digit] at blank
    contradiction
  have low : c ≠ '_' := by
    rintro rfl
    exact absurd blank (by decide)
  simp [isWord, isLetter, apart (List.subset_append_left letters numbers),
    apart (List.subset_append_right letters numbers), digit, low]

theorem isLetter_of_isBlank {c : Char} (blank : isBlank c = true) : isLetter c = false :=
  Bool.eq_false_iff.mpr fun letter =>
    Bool.eq_false_iff.mp (isWord_of_isBlank blank) (isWord_of_isLetter letter)

theorem isDigit_of_isBlank {c : Char} (blank : isBlank c = true) : isDigit c = false :=
  Bool.eq_false_iff.mpr fun digit =>
    Bool.eq_false_iff.mp (isWord_of_isBlank blank) (isWord_of_isDigit digit)

end Text

/-- What comes first in `rest'` is what comes first in `rest`, or a blank, or nothing. -/
def Narrows (rest' rest : List Char) : Prop :=
  ∀ c, rest'.head? = some c → isBlank c = true ∨ rest.head? = some c

namespace Narrows

variable {p : Char → Bool} {rest rest' : List Char}

theorem of_head? (same : rest'.head? = rest.head?) : Narrows rest' rest :=
  fun _ hc => .inr (same ▸ hc)

private theorem any_head? (h : Narrows rest' rest) (apart : ∀ c, isBlank c = true → p c = false)
    (boundary : rest.head?.any p = false) : rest'.head?.any p = false := by
  cases hc : rest'.head? with
  | none => rfl
  | some c =>
    rcases h c hc with blank | same
    · exact apart c blank
    · rwa [same] at boundary

private theorem append (h : Narrows rest' rest) (body : List Char) :
    Narrows (body ++ rest') (body ++ rest) := by
  cases body with
  | nil => exact h
  | cons c body => exact .of_head? rfl

end Narrows

private theorem span_transfer {p : Char → Bool} (apart : ∀ c, isBlank c = true → p c = false)
    {cs rest : List Char} (narrow : Narrows rest (cs.dropWhile p)) :
    (cs.takeWhile p ++ rest).takeWhile p = cs.takeWhile p ∧
      (cs.takeWhile p ++ rest).dropWhile p = rest :=
  span_of_boundary (fun _ hc => List.mem_takeWhile_imp hc)
    (narrow.any_head? apart (any_head?_dropWhile p cs))

private theorem head?_run {p q : Char → Bool} (within : ∀ c, p c = true → q c = true)
    {cs : List Char} (first : cs.head?.any p = true) (rest : List Char) :
    (cs.takeWhile q ++ rest).head?.any p = true := by
  cases cs with
  | nil => contradiction
  | cons c cs =>
    have hc : p c = true := by simpa using first
    simpa [List.takeWhile_cons_of_pos (within c hc)] using hc

/-- The number at the front stays the same if nothing comes after it that did not before, or only
blanks: a point is taken only once, and digits while they last. -/
private theorem spanNumber_transfer {cs rest : List Char}
    (narrow : Narrows rest (spanNumber cs).2) :
    spanNumber ((spanNumber cs).1 ++ rest) = ((spanNumber cs).1, rest) := by
  unfold spanNumber at narrow ⊢
  dsimp only at narrow ⊢
  split at narrow
  · next fraction hf =>
    have point {r : List Char} : Narrows ('.' :: r) (cs.dropWhile isDigit) := by
      rw [hf]
      exact .of_head? rfl
    obtain ⟨decimals, after⟩ := span_transfer (fun _ => isDigit_of_isBlank) narrow
    obtain ⟨digits, left⟩ := span_transfer (fun _ => isDigit_of_isBlank)
      (point (r := fraction.takeWhile isDigit ++ rest))
    simp only [List.append_assoc, List.cons_append, digits, left, decimals, after]
  · next noPoint =>
    obtain ⟨digits, left⟩ := span_transfer (fun _ => isDigit_of_isBlank) narrow
    simp only [digits, left]
    split
    · next fraction =>
      rcases narrow '.' rfl with blank | same
      · exact absurd blank (by decide)
      · obtain ⟨after, ha⟩ := List.head?_eq_some_iff.mp same
        exact (noPoint after ha).elim
    · rfl

namespace Lexeme

/-! What is read, by the character it starts with and the one after that. -/

private theorem readDollar_digits {cs : List Char} (h : cs.head?.any isDigit = true) :
    readDollar cs = (⟨.lineRef, String.ofList (cs.takeWhile isDigit)⟩, cs.dropWhile isDigit) := by
  cases cs with
  | nil => contradiction
  | cons c cs =>
    have hc : isDigit c = true := by simpa using h
    simp [readDollar, hc]

private theorem readDollar_name {cs : List Char} (hd : cs.head?.any isDigit = false)
    (hl : cs.head?.any isLetter = true) :
    readDollar cs = (⟨.name, String.ofList (cs.takeWhile isWord)⟩, cs.dropWhile isWord) := by
  cases cs with
  | nil => contradiction
  | cons c cs =>
    have hc : isDigit c = false := by simpa using hd
    have hc' : isLetter c = true := by simpa using hl
    simp [readDollar, hc, hc']

private theorem readDollar_lone {cs : List Char} (hd : cs.head?.any isDigit = false)
    (hl : cs.head?.any isLetter = false) : readDollar cs = (⟨.invalid, "$"⟩, cs) := by
  cases cs with
  | nil => rfl
  | cons c cs =>
    have hc : isDigit c = false := by simpa using hd
    have hc' : isLetter c = false := by simpa using hl
    simp [readDollar, hc, hc']

def startsNumber (c : Char) (cs : List Char) : Bool :=
  isDigit c || (c == '.' && cs.head?.any isDigit)

theorem read_number {c : Char} {cs : List Char} (h : startsNumber c cs = true) :
    read c cs = (⟨.number, String.ofList (spanNumber (c :: cs)).1⟩, (spanNumber (c :: cs)).2) :=
  if_pos h

private theorem read_dollar (cs : List Char) : read '$' cs = readDollar cs := by
  simp [read, show isDigit '$' = false by decide]

theorem read_sign {c : Char} {cs : List Char} {kind : TokenKind} (hn : startsNumber c cs = false)
    (hs : c ≠ '$') (hk : signKind? c = some kind) :
    read c cs = (⟨kind, String.ofList [c]⟩, cs) := by
  unfold startsNumber at hn
  simp [read, hn, hs, hk]

private theorem read_word {c : Char} {cs : List Char} (hn : startsNumber c cs = false)
    (hs : c ≠ '$') (hk : signKind? c = none) (hl : isLetter c = true) :
    read c cs =
      (⟨if isSqrtWord ((c :: cs).takeWhile isWord) then .sqrt else .invalid,
        String.ofList ((c :: cs).takeWhile isWord)⟩, (c :: cs).dropWhile isWord) := by
  unfold startsNumber at hn
  simp [read, hn, hs, hk, hl]

theorem read_other {c : Char} {cs : List Char} (hn : startsNumber c cs = false) (hs : c ≠ '$')
    (hk : signKind? c = none) (hl : isLetter c = false) :
    read c cs = (⟨.invalid, String.ofList [c]⟩, cs) := by
  unfold startsNumber at hn
  simp [read, hn, hs, hk, hl]

/-- What is read at the front, by the character it starts with and the one after that. -/
inductive Reads (c : Char) (cs : List Char) : Lexeme → Prop
  | number (hn : startsNumber c cs = true) :
      Reads c cs ⟨.number, String.ofList (spanNumber (c :: cs)).1⟩
  | lineRef (hs : c = '$') (hd : cs.head?.any isDigit = true) :
      Reads c cs ⟨.lineRef, String.ofList (cs.takeWhile isDigit)⟩
  | name (hs : c = '$') (hd : cs.head?.any isDigit = false) (hl : cs.head?.any isLetter = true) :
      Reads c cs ⟨.name, String.ofList (cs.takeWhile isWord)⟩
  | lone (hs : c = '$') (hd : cs.head?.any isDigit = false) : Reads c cs ⟨.invalid, "$"⟩
  | sign {kind : TokenKind} (hs : c ≠ '$') (hk : signKind? c = some kind) :
      Reads c cs ⟨kind, String.ofList [c]⟩
  | word {kind : TokenKind} (hs : c ≠ '$') (hk : kind = .sqrt ∨ kind = .invalid) :
      Reads c cs ⟨kind, String.ofList ((c :: cs).takeWhile isWord)⟩
  | other (hs : c ≠ '$') : Reads c cs ⟨.invalid, String.ofList [c]⟩

theorem reads_read (c : Char) (cs : List Char) : Reads c cs (read c cs).1 := by
  by_cases hn : startsNumber c cs = true
  · rw [read_number hn]
    exact .number hn
  have hn := Bool.eq_false_iff.mpr hn
  by_cases hs : c = '$'
  · subst hs
    rw [read_dollar]
    by_cases hd : cs.head?.any isDigit = true
    · rw [readDollar_digits hd]
      exact .lineRef rfl hd
    have hd := Bool.eq_false_iff.mpr hd
    by_cases hl : cs.head?.any isLetter = true
    · rw [readDollar_name hd hl]
      exact .name rfl hd hl
    · rw [readDollar_lone hd (Bool.eq_false_iff.mpr hl)]
      exact .lone rfl hd
  cases hk : signKind? c with
  | some kind =>
    rw [read_sign hn hs hk]
    exact .sign hs hk
  | none =>
    by_cases hl : isLetter c = true
    · rw [read_word hn hs hk hl]
      exact .word hs (by split <;> simp)
    · rw [read_other hn hs hk (Bool.eq_false_iff.mpr hl)]
      exact .other hs

theorem exists_spelling_read (c : Char) (cs : List Char) :
    ∃ body, (read c cs).1.spelling = c :: body ∧ cs = body ++ (read c cs).2 := by
  have whole := read_append c cs
  have short := length_read_le c cs
  cases hs : (read c cs).1.spelling with
  | nil =>
    rw [hs, List.nil_append] at whole
    rw [whole, List.length_cons] at short
    omega
  | cons d body =>
    rw [hs, List.cons_append] at whole
    obtain ⟨rfl, rest⟩ := List.cons.inj whole
    exact ⟨body, rfl, rest.symm⟩

private theorem readDollar_transfer {body rest rest' : List Char} {x : Lexeme}
    (hx : x.spelling = '$' :: body) (read : readDollar (body ++ rest) = (x, rest))
    (narrow : Narrows rest' rest) : readDollar (body ++ rest') = (x, rest') := by
  by_cases hd : (body ++ rest).head?.any isDigit = true
  · rw [readDollar_digits hd] at read
    obtain ⟨rfl, left⟩ := Prod.mk.inj read
    have run : (body ++ rest).takeWhile isDigit = body := by
      simpa [spelling, TokenKind.hasSigil] using hx
    have first := head?_run (fun _ => id) hd rest'
    obtain ⟨run', left'⟩ := span_transfer (fun _ => isDigit_of_isBlank) (left ▸ narrow)
    rw [run] at first run' left' ⊢
    rw [readDollar_digits first, run', left']
  have hd := Bool.eq_false_iff.mpr hd
  have hd' := (narrow.append body).any_head? (fun _ => isDigit_of_isBlank) hd
  by_cases hl : (body ++ rest).head?.any isLetter = true
  · rw [readDollar_name hd hl] at read
    obtain ⟨rfl, left⟩ := Prod.mk.inj read
    have run : (body ++ rest).takeWhile isWord = body := by
      simpa [spelling, TokenKind.hasSigil] using hx
    have first := head?_run (fun _ => isWord_of_isLetter) hl rest'
    obtain ⟨run', left'⟩ := span_transfer (fun _ => isWord_of_isBlank) (left ▸ narrow)
    rw [run] at first run' left' ⊢
    rw [readDollar_name hd' first, run', left']
  · have hl := Bool.eq_false_iff.mpr hl
    have hl' := (narrow.append body).any_head? (fun _ => isLetter_of_isBlank) hl
    rw [readDollar_lone hd hl] at read
    obtain ⟨rfl, left⟩ := Prod.mk.inj read
    obtain rfl : body = [] := by simpa using left
    rw [readDollar_lone hd' hl']
    rfl

private theorem startsNumber_transfer {c : Char} {cs body : List Char}
    (run : (spanNumber (c :: cs)).1 = c :: body) (h : startsNumber c cs = true)
    (rest : List Char) : startsNumber c (body ++ rest) = true := by
  by_cases hc : isDigit c = true
  · simp [startsNumber, hc]
  · have hc := Bool.eq_false_iff.mpr hc
    have point : c = '.' ∧ cs.head?.any isDigit = true := by simpa [startsNumber, hc] using h
    obtain ⟨rfl, digit⟩ := point
    obtain rfl : cs.takeWhile isDigit = body := by
      simpa [spanNumber, hc] using run
    rw [startsNumber, head?_run (fun _ => id) digit rest]
    rfl

/-- A mark that was read is read again if nothing comes after it that did not before, or only
blanks. -/
private theorem read_transfer {c : Char} {body rest rest' : List Char} {x : Lexeme}
    (hx : x.spelling = c :: body) (hread : read c (body ++ rest) = (x, rest))
    (narrow : Narrows rest' rest) : read c (body ++ rest') = (x, rest') := by
  by_cases hn : startsNumber c (body ++ rest) = true
  · rw [read_number hn] at hread
    obtain ⟨rfl, left⟩ := Prod.mk.inj hread
    have run : (spanNumber (c :: (body ++ rest))).1 = c :: body := by
      simpa [spelling, TokenKind.hasSigil] using hx
    have again := spanNumber_transfer (left ▸ narrow)
    rw [run, List.cons_append] at again
    rw [read_number (startsNumber_transfer run hn rest'), again, run]
  have hn := Bool.eq_false_iff.mpr hn
  have hn' : startsNumber c (body ++ rest') = false := by
    rw [startsNumber, Bool.or_eq_false_iff, Bool.and_eq_false_iff] at hn ⊢
    exact hn.imp_right (Or.imp_right
      ((narrow.append body).any_head? fun _ => isDigit_of_isBlank))
  by_cases hs : c = '$'
  · subst hs
    rw [read_dollar] at hread ⊢
    exact readDollar_transfer hx hread narrow
  cases hk : signKind? c with
  | some kind =>
    rw [read_sign hn hs hk] at hread
    rw [read_sign hn' hs hk]
    obtain ⟨rfl, left⟩ := Prod.mk.inj hread
    obtain rfl : body = [] := by simpa using left
    rfl
  | none =>
    by_cases hl : isLetter c = true
    · rw [read_word hn hs hk hl] at hread
      rw [read_word hn' hs hk hl]
      obtain ⟨rfl, left⟩ := Prod.mk.inj hread
      have run : (c :: (body ++ rest)).takeWhile isWord = c :: body := by
        revert hx
        split <;> simp [spelling, TokenKind.hasSigil]
      obtain ⟨run', left'⟩ := span_transfer (fun _ => isWord_of_isBlank) (left ▸ narrow)
      rw [run, List.cons_append] at run' left'
      rw [run', left', run]
    · have hl := Bool.eq_false_iff.mpr hl
      rw [read_other hn hs hk hl] at hread
      rw [read_other hn' hs hk hl]
      obtain ⟨rfl, left⟩ := Prod.mk.inj hread
      obtain rfl : body = [] := by simpa using left
      rfl

theorem kind_of_signKind? {c : Char} {kind : TokenKind} (hk : signKind? c = some kind) :
    kind ≠ .stop ∧ kind ≠ .number ∧ kind ≠ .lineRef ∧ kind ≠ .name := by
  unfold signKind? at hk
  split at hk <;> first | contradiction | (obtain rfl := Option.some.inj hk; decide)

private theorem read_of_lineRef {c : Char} {cs : List Char} (h : (read c cs).1.kind = .lineRef) :
    c = '$' ∧ cs.head?.any isDigit = true := by
  have reads := reads_read c cs
  generalize (read c cs).1 = x at reads h
  cases reads with
  | lineRef hs hd => exact ⟨hs, hd⟩
  | sign _ hk => exact absurd h (kind_of_signKind? hk).2.2.1
  | word _ hk => rcases hk with rfl | rfl <;> contradiction
  | _ => contradiction

/-- The mark is what is read at the front of its spelling before `rest`: it is no blank, and it is
as long as it can be there. -/
def FitsBefore (x : Lexeme) (rest : List Char) : Prop :=
  ∃ c body, isBlank c = false ∧ x.spelling = c :: body ∧ read c (body ++ rest) = (x, rest)

theorem FitsBefore.narrow {x : Lexeme} {rest rest' : List Char} (h : x.FitsBefore rest)
    (narrow : Narrows rest' rest) : x.FitsBefore rest' := by
  obtain ⟨c, body, blank, hx, hread⟩ := h
  exact ⟨c, body, blank, hx, read_transfer hx hread narrow⟩

private theorem fitsBefore_read {c : Char} (blank : isBlank c = false) (cs : List Char) :
    (read c cs).1.FitsBefore (read c cs).2 := by
  obtain ⟨body, hx, hcs⟩ := exists_spelling_read c cs
  exact ⟨c, body, blank, hx, by rw [← hcs]⟩

theorem FitsBefore.digits {x : Lexeme} {rest : List Char} (h : x.FitsBefore rest)
    (hk : x.kind = .lineRef) :
    x.text.toList ≠ [] ∧ (∀ c ∈ x.text.toList, isDigit c = true) ∧
      rest.head?.any isDigit = false := by
  obtain ⟨c, body, -, hx, hread⟩ := h
  have kind : (read c (body ++ rest)).1.kind = .lineRef := by rw [hread]; exact hk
  obtain ⟨rfl, first⟩ := read_of_lineRef kind
  rw [read_dollar, readDollar_digits first] at hread
  obtain ⟨rfl, left⟩ := Prod.mk.inj hread
  refine ⟨?_, ?_, left ▸ any_head?_dropWhile isDigit _⟩
  · intro empty
    rw [String.toList_ofList] at empty
    cases hb : body ++ rest with
    | nil => simp [hb] at first
    | cons d ds =>
      have : isDigit d = true := by simpa [hb] using first
      simp [hb, this] at empty
  · intro d hd
    rw [String.toList_ofList] at hd
    exact List.mem_takeWhile_imp hd

theorem fitsBefore_digits {ds rest : List Char} (hne : ds ≠ [])
    (inside : ∀ c ∈ ds, isDigit c = true) (boundary : rest.head?.any isDigit = false) :
    FitsBefore ⟨.lineRef, String.ofList ds⟩ rest := by
  refine ⟨'$', ds, by decide, by simp [spelling, TokenKind.hasSigil], ?_⟩
  obtain ⟨run, left⟩ := span_of_boundary inside boundary
  obtain ⟨d, ds, rfl⟩ := List.exists_cons_of_ne_nil hne
  have first : (d :: ds ++ rest).head?.any isDigit = true := by
    simpa using inside d List.mem_cons_self
  rw [read_dollar, readDollar_digits first, run, left]

theorem FitsBefore.reads {x : Lexeme} {rest : List Char} (h : x.FitsBefore rest) :
    ∃ c body, x.spelling = c :: body ∧ Reads c (body ++ rest) x := by
  obtain ⟨c, body, -, hx, hread⟩ := h
  have reads := reads_read c (body ++ rest)
  rw [hread] at reads
  exact ⟨c, body, hx, reads⟩

theorem FitsBefore.name {x : Lexeme} {rest : List Char} (h : x.FitsBefore rest)
    (hk : x.kind = .name) :
    ∃ c cs, x.text.toList = c :: cs ∧ isLetter c = true ∧ ∀ d ∈ cs, isWord d = true := by
  obtain ⟨c, body, -, reads⟩ := h.reads
  cases reads with
  | name _ _ hl =>
    obtain ⟨d, ds, split⟩ := List.exists_cons_of_ne_nil (l := body ++ rest) fun none => by
      simp [none] at hl
    have letter : isLetter d = true := by simpa [split] using hl
    refine ⟨d, ds.takeWhile isWord, ?_, letter, fun _ hc => List.mem_takeWhile_imp hc⟩
    rw [String.toList_ofList, split, List.takeWhile_cons_of_pos (isWord_of_isLetter letter)]
  | sign _ sign => exact absurd hk (kind_of_signKind? sign).2.2.2
  | word _ word => rcases word with rfl | rfl <;> contradiction
  | _ => contradiction

theorem FitsBefore.kind_ne_stop {x : Lexeme} {rest : List Char} (h : x.FitsBefore rest) :
    x.kind ≠ .stop := by
  obtain ⟨c, body, -, reads⟩ := h.reads
  cases reads with
  | sign _ hk => exact (kind_of_signKind? hk).1
  | word _ hk => rcases hk with rfl | rfl <;> exact TokenKind.noConfusion
  | _ => exact TokenKind.noConfusion

end Lexeme

/-- Pieces before a tail of blanks: each has a gap of blanks and a mark that fits before what
comes after it. -/
def Cut.ProperBefore (tail : List Char) : List Piece → Prop
  | [] => ∀ c ∈ tail, isBlank c = true
  | p :: ps => (∀ c ∈ p.gap, isBlank c = true) ∧
      p.lexeme.FitsBefore (Cut.spelling ⟨ps, tail⟩) ∧ ProperBefore tail ps

def Cut.Proper (c : Cut) : Prop := ProperBefore c.tail c.pieces

@[simp] theorem Cut.spelling_cons (p : Piece) (ps : List Piece) (tail : List Char) :
    Cut.spelling ⟨p :: ps, tail⟩ = p.gap ++ (p.lexeme.spelling ++ Cut.spelling ⟨ps, tail⟩) := by
  simp only [Cut.spelling, List.flatMap_cons, Piece.spelling, List.append_assoc]

theorem proper_cut (cs : List Char) : (cut cs).Proper := by
  fun_induction cut cs with
  | case1 cs gap h =>
    intro c hc
    exact List.mem_takeWhile_imp hc
  | case2 cs gap c rest h after ih =>
    have blank : isBlank c = false := by
      simpa [h] using any_head?_dropWhile isBlank cs
    refine ⟨fun c hc => List.mem_takeWhile_imp hc, ?_, ih⟩
    have left : Cut.spelling ⟨after.pieces, after.tail⟩ = (Lexeme.read c rest).2 := spelling_cut _
    rw [left]
    exact Lexeme.fitsBefore_read blank rest

/-- A line has one cut: a cut of the right form is that of its own spelling. -/
theorem cut_spelling {pieces : List Piece} {tail : List Char}
    (h : Cut.ProperBefore tail pieces) : cut (Cut.spelling ⟨pieces, tail⟩) = ⟨pieces, tail⟩ := by
  induction pieces with
  | nil =>
    have blanks : tail.takeWhile isBlank = tail ∧ tail.dropWhile isBlank = [] :=
      ⟨List.takeWhile_eq_self_iff.mpr h, List.dropWhile_eq_nil_iff.mpr h⟩
    unfold cut
    split
    · simp [Cut.spelling, blanks]
    · next hc => simp [Cut.spelling, blanks] at hc
  | cons p ps ih =>
    obtain ⟨gap, ⟨c, body, blank, hx, hread⟩, proper⟩ := h
    have line : Cut.spelling ⟨p :: ps, tail⟩ = p.gap ++ c :: (body ++ Cut.spelling ⟨ps, tail⟩) := by
      rw [Cut.spelling_cons, hx, List.cons_append]
    have stops : (c :: (body ++ Cut.spelling ⟨ps, tail⟩)).head?.any isBlank = false := by
      simpa using blank
    obtain ⟨before, left⟩ := span_of_boundary gap stops
    rw [line]
    unfold cut
    split
    · next hc => simp [left] at hc
    · next d rest hc =>
      obtain ⟨rfl, rfl⟩ := List.cons.inj (left.symm.trans hc)
      simp only [before, hread, ih proper]

theorem cut_reference {ds : List Char} (some : ds ≠ []) (digits : ∀ c ∈ ds, isDigit c = true) :
    cut ('$' :: ds) = ⟨[⟨[], ⟨.lineRef, String.ofList ds⟩⟩], []⟩ := by
  have mark : Lexeme.FitsBefore ⟨.lineRef, String.ofList ds⟩ [] :=
    Lexeme.fitsBefore_digits some digits rfl
  have proper : Cut.ProperBefore [] [⟨[], ⟨.lineRef, String.ofList ds⟩⟩] := ⟨nofun, mark, nofun⟩
  have spelled : Cut.spelling ⟨[⟨[], ⟨.lineRef, String.ofList ds⟩⟩], []⟩ = '$' :: ds := by
    simp [Cut.spelling, Piece.spelling, Lexeme.spelling, TokenKind.hasSigil]
  rw [← spelled, cut_spelling proper]

def lexemes (text : String) : List Lexeme := (cut text.toList).pieces.map Piece.lexeme

/-- The marks that the grammar is given: those up to the first that is none of the language, and
a stop. -/
def upToInvalidMark : List Lexeme → List Lexeme
  | [] => [⟨.stop, ""⟩]
  | x :: xs => if x.kind = .invalid then [x, ⟨.stop, ""⟩] else x :: upToInvalidMark xs

theorem forall₂_upToInvalidMark {S : Lexeme → Lexeme → Prop}
    (kind : ∀ x y, S x y → y.kind = x.kind) (stop : S ⟨.stop, ""⟩ ⟨.stop, ""⟩)
    {xs ys : List Lexeme} (h : List.Forall₂ S xs ys) :
    List.Forall₂ S (upToInvalidMark xs) (upToInvalidMark ys) := by
  induction h with
  | nil => exact .cons stop .nil
  | cons hx _ ih =>
    rw [upToInvalidMark, upToInvalidMark, kind _ _ hx]
    split
    · exact .cons hx (.cons stop .nil)
    · exact .cons hx ih

private theorem map_tokensFrom (start : Nat) (ps : List Piece) :
    (tokensFrom start ps).map Token.toLexeme = ps.map Piece.lexeme := by
  induction ps generalizing start with
  | nil => rfl
  | cons p ps ih => simp only [tokensFrom, List.map_cons, ih]

@[simp] theorem map_scan (text : String) : (scan text).map Token.toLexeme = lexemes text :=
  map_tokensFrom 0 _

private theorem map_upToInvalid (finish : Nat) (ts : List Token) :
    (upToInvalid finish ts).map Token.toLexeme = upToInvalidMark (ts.map Token.toLexeme) := by
  induction ts with
  | nil => rfl
  | cons t ts ih =>
    by_cases h : t.kind = .invalid
    · simp [upToInvalid, upToInvalidMark, h]
    · simp [upToInvalid, upToInvalidMark, h, ih]

@[simp] theorem map_tokenize (text : String) :
    (tokenize text).map Token.toLexeme = upToInvalidMark (lexemes text) := by
  rw [tokenize, map_upToInvalid, map_scan]

private theorem exists_fits_of_proper {pieces : List Piece} {tail : List Char}
    (h : Cut.ProperBefore tail pieces) {x : Lexeme} (hx : x ∈ pieces.map Piece.lexeme) :
    ∃ rest, x.FitsBefore rest := by
  induction pieces with
  | nil => contradiction
  | cons p ps ih =>
    obtain ⟨-, fits, proper⟩ := h
    rcases List.mem_cons.mp hx with rfl | hx
    · exact ⟨_, fits⟩
    · exact ih proper hx

theorem exists_fitsBefore {text : String} {x : Lexeme} (h : x ∈ lexemes text) :
    ∃ rest, x.FitsBefore rest :=
  exists_fits_of_proper (proper_cut text.toList) h

end Worksheet

import Worksheet.Display
import Worksheet.Proofs.Numeral.Decimal
import Worksheet.Proofs.Token.Renumber
import Worksheet.Proofs.Token.Spans

/-!
References as the matches of a pattern: a dollar sign and digits after it. No other mark takes in
such a dollar sign (`FitsBefore.noReference`), so the tokens that are references are the matches of
the pattern in the text, whatever stands around them, and renumbering is substitution for the
matches (`references_are_matches`).
-/

set_option autoImplicit false
set_option relaxedAutoImplicit false

namespace Worksheet

open Text Lexeme

structure Found where
  start : Nat
  run : List Char
deriving DecidableEq, Repr

namespace Found

def finish (m : Found) : Nat := m.start + m.run.length

end Found

/-- What a pattern finds in the characters from offset `start` on. Each time it is the leftmost
occurrence, as long as it can be there, and the search goes on behind it. -/
inductive Matches (P : List Char → Prop) : Nat → List Char → List Found → Prop
  | none {start : Nat} {cs : List Char}
      (nowhere : ∀ before run after, cs = before ++ (run ++ after) → ¬ P run) :
      Matches P start cs []
  | next {start : Nat} {before run after : List Char} {ms : List Found} (occurs : P run)
      (leftmost : ∀ before' run' after', before ++ (run ++ after) = before' ++ (run' ++ after') →
        P run' → before.length ≤ before'.length)
      (longest : ∀ run' after', run ++ after = run' ++ after' → P run' →
        run'.length ≤ run.length)
      (h : Matches P (start + before.length + run.length) after ms) :
      Matches P start (before ++ (run ++ after)) (⟨start + before.length, run⟩ :: ms)

namespace Matches

variable {P : List Char → Prop}

theorem unique {start : Nat} {cs : List Char} {ms ms' : List Found} (h : Matches P start cs ms)
    (h' : Matches P start cs ms') : ms' = ms := by
  induction h generalizing ms' with
  | none nowhere =>
    cases h' with
    | none _ => rfl
    | next occurs _ _ _ => exact absurd occurs (nowhere _ _ _ rfl)
  | @next start before run after ms occurs leftmost longest _ ih =>
    generalize whole : before ++ (run ++ after) = cs at h'
    cases h' with
    | none nowhere => exact absurd occurs (nowhere _ _ _ whole.symm)
    | @next _ before' run' after' ms' occurs' leftmost' longest' h' =>
      have front : before.length = before'.length :=
        Nat.le_antisymm (leftmost _ _ _ whole occurs') (leftmost' _ _ _ whole.symm occurs)
      obtain ⟨rfl, rest⟩ := List.append_inj whole front
      have length : run.length = run'.length :=
        Nat.le_antisymm (longest' _ _ rest.symm occurs) (longest _ _ rest occurs')
      obtain ⟨rfl, rfl⟩ := List.append_inj rest length
      rw [ih h']

private theorem prepend {start : Nat} {front cs : List Char} {ms : List Found}
    (clear : ∀ before run after, front ++ cs = before ++ (run ++ after) → P run →
      front.length ≤ before.length)
    (h : Matches P (start + front.length) cs ms) : Matches P start (front ++ cs) ms := by
  have split {before run after : List Char} (whole : front ++ cs = before ++ (run ++ after))
      (occurs : P run) :
      ∃ middle, before = front ++ middle ∧ cs = middle ++ (run ++ after) := by
    obtain ⟨middle, rfl⟩ := List.prefix_of_prefix_length_le (List.prefix_append front cs)
      (whole ▸ List.prefix_append before (run ++ after)) (clear _ _ _ whole occurs)
    rw [List.append_assoc] at whole
    exact ⟨middle, rfl, List.append_cancel_left whole⟩
  generalize hs : start + front.length = s at h
  cases h with
  | none nowhere =>
    refine .none fun before run after whole occurs => ?_
    obtain ⟨middle, -, rest⟩ := split whole occurs
    exact nowhere _ _ _ rest occurs
  | @next _ before run after ms occurs leftmost longest h =>
    have offset : s + before.length = start + (front ++ before).length := by
      rw [List.length_append, ← hs, Nat.add_assoc]
    rw [offset] at h ⊢
    rw [← List.append_assoc]
    refine .next occurs (fun before' run' after' whole occurs' => ?_) longest h
    rw [List.append_assoc] at whole
    obtain ⟨middle, rfl, rest⟩ := split whole occurs'
    have := leftmost _ _ _ rest occurs'
    rw [List.length_append, List.length_append]
    omega

end Matches

def IsReference (run : List Char) : Prop :=
  ∃ ds, run = '$' :: ds ∧ ds ≠ [] ∧ ∀ d ∈ ds, isDigit d = true

/-- Whether no dollar sign in `front` has a digit after it, if `cs` comes next. -/
def NoReference (front cs : List Char) : Prop :=
  ∀ before after, front = before ++ '$' :: after → (after ++ cs).head?.any isDigit = false

private theorem IsReference.head?_any {ds : List Char} (h : IsReference ('$' :: ds))
    (cs : List Char) : (ds ++ cs).head?.any isDigit = true := by
  obtain ⟨ds, same, some, digits⟩ := h
  obtain rfl := (List.cons.inj same).2
  obtain ⟨d, ds, rfl⟩ := List.exists_cons_of_ne_nil some
  simpa using digits d List.mem_cons_self

private theorem NoReference.clear {front cs : List Char} (h : NoReference front cs)
    {before run after : List Char} (whole : front ++ cs = before ++ (run ++ after))
    (occurs : IsReference run) : front.length ≤ before.length := by
  by_contra short
  obtain ⟨middle, rfl⟩ := List.prefix_of_prefix_length_le
    (whole ▸ List.prefix_append before (run ++ after)) (List.prefix_append front cs)
    (Nat.le_of_not_le short)
  obtain ⟨ds, rfl, -⟩ := id occurs
  rw [List.append_assoc, List.append_cancel_left_eq] at whole
  cases middle with
  | nil => simp at short
  | cons c middle =>
    rw [List.cons_append, List.cons_append] at whole
    obtain ⟨rfl, rest⟩ := List.cons.inj whole
    have digit := occurs.head?_any after
    rw [← rest, h before middle rfl] at digit
    contradiction

private theorem noReference_of_isBlank {gap : List Char} (blank : ∀ c ∈ gap, isBlank c = true)
    (cs : List Char) : NoReference gap cs := by
  rintro before after rfl
  have dollar := blank '$' (by simp)
  exact absurd dollar (by decide)

private theorem NoReference.append {front cs rest : List Char} (h : NoReference front (cs ++ rest))
    (h' : NoReference cs rest) : NoReference (front ++ cs) rest := by
  intro before after split
  rcases List.append_eq_append_iff.mp split with ⟨middle, rfl, hcs⟩ | ⟨middle, rfl, hm⟩
  · exact h' middle after hcs
  · cases middle with
    | nil => exact h' [] after hm.symm
    | cons c middle =>
      rw [List.cons_append] at hm
      obtain ⟨rfl, rfl⟩ := List.cons.inj hm
      rw [List.append_assoc]
      exact h before middle rfl

private theorem noReference_of_ne {cs : List Char} (h : ∀ c ∈ cs, c ≠ '$') (rest : List Char) :
    NoReference cs rest := by
  rintro before after rfl
  exact absurd rfl (h '$' (by simp))

private theorem ne_dollar_of_mem_takeWhile {p : Char → Bool} (other : p '$' = false)
    {cs : List Char} {d : Char} (hd : d ∈ cs.takeWhile p) : d ≠ '$' := by
  rintro rfl
  exact absurd (List.mem_takeWhile_imp hd) (by simp [other])

private theorem noReference_cons {body rest : List Char}
    (first : (body ++ rest).head?.any isDigit = false) (others : ∀ c ∈ body, c ≠ '$') :
    NoReference ('$' :: body) rest := by
  intro before after split
  cases before with
  | nil =>
    obtain rfl := (List.cons.inj split).2
    exact first
  | cons c before =>
    rw [List.cons_append] at split
    exact noReference_of_ne others rest before after (List.cons.inj split).2

private theorem Lexeme.FitsBefore.noReference {x : Lexeme} {rest : List Char}
    (h : x.FitsBefore rest) (hk : x.kind ≠ .lineRef) : NoReference x.spelling rest := by
  obtain ⟨c, body, hx, reads⟩ := h.reads
  cases reads with
  | number _ =>
    refine noReference_of_ne (fun d hd => ?_) rest
    rintro rfl
    have decimal := h.isDecimal rfl
    rcases decimal.char (by simpa [spelling, TokenKind.hasSigil] using hd) with digit | point
    · exact absurd digit (by decide)
    · exact absurd point (by decide)
  | lineRef _ _ => exact absurd rfl hk
  | name hs hd _ =>
    have run : '$' :: (body ++ rest).takeWhile isWord = c :: body := by
      simpa [spelling, TokenKind.hasSigil] using hx
    rw [hx, hs]
    refine noReference_cons hd fun d mem => ?_
    rw [← (List.cons.inj run).2] at mem
    exact ne_dollar_of_mem_takeWhile (by decide +kernel) mem
  | lone hs hd =>
    obtain rfl : [] = body := by simpa [spelling, TokenKind.hasSigil, hs] using hx
    rw [hx, hs]
    exact noReference_cons hd (List.forall_mem_nil _)
  | sign hs sign =>
    refine noReference_of_ne (fun d hd => ?_) rest
    obtain rfl : d = c := by simpa [spelling, hasSigil_of_signKind? sign] using hd
    exact hs
  | word _ word =>
    refine noReference_of_ne (fun d hd => ?_) rest
    have mem : d ∈ (c :: (body ++ rest)).takeWhile isWord := by
      rcases word with rfl | rfl <;> simpa [spelling, TokenKind.hasSigil] using hd
    exact ne_dollar_of_mem_takeWhile (by decide +kernel) mem
  | other hs =>
    refine noReference_of_ne (fun d hd => ?_) rest
    obtain rfl : d = c := by simpa [spelling, TokenKind.hasSigil] using hd
    exact hs

/-! ## The tokens that are references -/

def Token.found (t : Token) : Found := ⟨t.position.toNat, t.spelling⟩

def referencesFound (ts : List Token) : List Found :=
  (ts.filter fun t => t.kind = .lineRef).map Token.found

private theorem referencesFound_tokensFrom_cons (start : Nat) (p : Piece) (ps : List Piece) :
    referencesFound (tokensFrom start (p :: ps)) =
      (if p.lexeme.kind = .lineRef then [⟨start + p.gap.length, p.lexeme.spelling⟩] else []) ++
        referencesFound (tokensFrom (start + p.gap.length + p.lexeme.spelling.length) ps) := by
  have length : start + p.spelling.length =
      start + p.gap.length + p.lexeme.spelling.length := by
    rw [Piece.spelling, List.length_append, Nat.add_assoc]
  rw [tokensFrom, length, referencesFound]
  split
  · next hk =>
    rw [List.filter_cons_of_pos (by simpa using hk), List.map_cons]
    rfl
  · next hk =>
    rw [List.filter_cons_of_neg (by simpa using hk)]
    rfl

private theorem Lexeme.spelling_of_lineRef {x : Lexeme} (hk : x.kind = .lineRef) :
    x.spelling = '$' :: x.text.toList := by
  rw [spelling, if_pos (by rw [hk]; rfl)]

private theorem Lexeme.FitsBefore.isReference {x : Lexeme} {rest : List Char}
    (h : x.FitsBefore rest) (hk : x.kind = .lineRef) : IsReference x.spelling :=
  ⟨x.text.toList, spelling_of_lineRef hk, (h.digits hk).1, (h.digits hk).2.1⟩

private theorem Lexeme.FitsBefore.longest {x : Lexeme} {rest : List Char} (h : x.FitsBefore rest)
    (hk : x.kind = .lineRef) {run after : List Char} (whole : x.spelling ++ rest = run ++ after)
    (occurs : IsReference run) : run.length ≤ x.spelling.length := by
  obtain ⟨ds, rfl, -, digits⟩ := occurs
  obtain ⟨-, inside, boundary⟩ := h.digits hk
  rw [spelling_of_lineRef hk, List.cons_append, List.cons_append] at whole
  rw [spelling_of_lineRef hk, List.length_cons, List.length_cons]
  have run := (span_of_boundary inside boundary).1
  rw [(List.cons.inj whole).2, List.takeWhile_append_of_pos digits] at run
  rw [← run, List.length_append]
  omega

/-- The pattern finds the references one by one: it starts in no gap and in no other mark. -/
theorem matches_of_proper {tail : List Char} {ps : List Piece} (proper : Cut.ProperBefore tail ps)
    (start : Nat) :
    Matches IsReference start (Cut.spelling ⟨ps, tail⟩)
      (referencesFound (tokensFrom start ps)) := by
  induction ps generalizing start with
  | nil =>
    refine .none fun before run after whole occurs => ?_
    have clear := (noReference_of_isBlank proper []).clear (by simpa [Cut.spelling] using whole)
      occurs
    obtain ⟨ds, rfl, -⟩ := occurs
    have length := congrArg List.length whole
    simp [Cut.spelling] at length
    omega
  | cons p ps ih =>
    obtain ⟨blank, fits, proper⟩ := proper
    have after := ih proper (start + p.gap.length + p.lexeme.spelling.length)
    have gap := noReference_of_isBlank blank (p.lexeme.spelling ++ Cut.spelling ⟨ps, tail⟩)
    rw [Cut.spelling_cons, referencesFound_tokensFrom_cons]
    split
    · next hk =>
      exact .next (fits.isReference hk) (fun _ _ _ => gap.clear) (fun _ _ => fits.longest hk) after
    · next hk =>
      rw [← List.append_assoc]
      refine .prepend (fun _ _ _ => (gap.append (fits.noReference hk)).clear) ?_
      rwa [List.length_append, ← Nat.add_assoc]

private theorem firstMark_append {front cs : List Char} (h : NoReference front cs) :
    firstMark isDigit (front ++ cs) = firstMark isDigit cs := by
  induction front with
  | nil => rfl
  | cons c front ih =>
    have other : ¬ (c = '$' && (front ++ cs).head?.any isDigit) = true := by
      intro first
      rw [Bool.and_eq_true, decide_eq_true_eq] at first
      obtain ⟨rfl, digit⟩ := first
      rw [h [] front rfl] at digit
      contradiction
    rw [List.cons_append, firstMark, if_neg other]
    refine ih fun before after split => h (c :: before) after ?_
    rw [split, List.cons_append]

private theorem firstMark_of_proper {tail : List Char} {ps : List Piece}
    (proper : Cut.ProperBefore tail ps) (start : Nat) :
    firstMark isDigit (Cut.spelling ⟨ps, tail⟩) =
      (referencesFound (tokensFrom start ps)).head?.elim [] Found.run := by
  induction ps generalizing start with
  | nil =>
    have none : firstMark isDigit (tail ++ []) = [] :=
      firstMark_append (noReference_of_isBlank proper [])
    simpa [Cut.spelling, referencesFound, tokensFrom] using none
  | cons p ps ih =>
    obtain ⟨blank, fits, proper⟩ := proper
    have gap := noReference_of_isBlank blank (p.lexeme.spelling ++ Cut.spelling ⟨ps, tail⟩)
    rw [Cut.spelling_cons, referencesFound_tokensFrom_cons]
    split
    · next hk =>
      obtain ⟨-, inside, boundary⟩ := fits.digits hk
      have spelled := spelling_of_lineRef hk
      have first := (spelled ▸ fits.isReference hk).head?_any (Cut.spelling ⟨ps, tail⟩)
      rw [firstMark_append gap, spelled, List.cons_append, firstMark, if_pos (by simpa using first),
        (span_of_boundary inside boundary).1]
      rfl
    · next hk =>
      rw [← List.append_assoc, firstMark_append (gap.append (fits.noReference hk)),
        List.nil_append]
      exact ih proper _

/-! ## Substitution for the matches -/

def writtenNumber? (run : List Char) : Option Nat := Numeral.ofDigits? (run.drop 1)

def rewritten (f : Nat → Int) (run : List Char) : List Char :=
  match writtenNumber? run with
  | none => run
  | some k => if f k = k then run else '$' :: Numeral.ofInt (f k)

def substitute (new : List Char → List Char) (cs : List Char) : Nat → List Found → List Char
  | start, [] => cs.drop start
  | start, m :: ms => cs.extract start m.start ++ new m.run ++ substitute new cs m.finish ms

private theorem writtenNumber?_spelling {x : Lexeme} (hk : x.kind = .lineRef) :
    writtenNumber? x.spelling = x.reference? := by
  rw [writtenNumber?, spelling_of_lineRef hk, List.drop_one, List.tail_cons, reference?, if_pos hk]

private theorem spelling_of_renumber {f : Nat → Int} {x y : Lexeme} (h : x.renumber f = .ok y) :
    y.spelling = if x.kind = .lineRef then rewritten f x.spelling else x.spelling := by
  unfold Lexeme.renumber at h
  cases hx : x.reference? with
  | none =>
    rw [hx] at h
    obtain rfl := Except.ok.inj h
    split
    · next hk => rw [rewritten, writtenNumber?_spelling hk, hx]
    · rfl
  | some k =>
    have hk := kind_of_reference? hx
    rw [if_pos hk, rewritten, writtenNumber?_spelling hk, hx]
    simp only [hx] at h ⊢
    split at h
    · next same =>
      obtain rfl := Except.ok.inj h
      rw [if_pos same]
    · next other =>
      rw [if_neg other]
      split at h
      · obtain rfl := Except.ok.inj h
        exact congrArg (List.cons '$') String.toList_ofList
      · next h => exact nomatch h

/-- The new text has, from `front` on, something new in place of each reference. What stands before
the next reference is `pending` and what comes first in the pieces. -/
private theorem substitute_pieces {f : Nat → Int} {ps qs : List Piece}
    (h : List.Forall₂ (fun p q => p.renumber f = .ok q) ps qs) (front pending tail : List Char) :
    substitute (rewritten f) (front ++ (pending ++ Cut.spelling ⟨ps, tail⟩)) front.length
        (referencesFound (tokensFrom (front.length + pending.length) ps)) =
      pending ++ Cut.spelling ⟨qs, tail⟩ := by
  induction h generalizing front pending with
  | nil => rw [referencesFound, tokensFrom, List.filter_nil, List.map_nil, substitute,
      List.drop_left]
  | @cons p q ps qs hq _ ih =>
    obtain ⟨y, hy, done⟩ := exists_ok_of_bind hq
    obtain rfl := Except.ok.inj done
    rw [referencesFound_tokensFrom_cons, Cut.spelling_cons, Cut.spelling_cons]
    by_cases hk : p.lexeme.kind = .lineRef
    · have new : y.spelling = rewritten f p.lexeme.spelling := by
        rw [spelling_of_renumber hy, if_pos hk]
      have before : (front ++ (pending ++ (p.gap ++ (p.lexeme.spelling ++
          Cut.spelling ⟨ps, tail⟩)))).extract front.length
            (front.length + (pending.length + p.gap.length)) = pending ++ p.gap := by
        rw [← List.append_assoc pending]
        exact extract_middle front (pending ++ p.gap) _ rfl (by rw [List.length_append])
      have after := ih (front ++ (pending ++ (p.gap ++ p.lexeme.spelling))) []
      rw [if_pos hk, new, List.singleton_append, substitute, Found.finish]
      simp only [List.length_append, List.append_assoc, Nat.add_assoc, List.length_nil,
        Nat.add_zero, List.nil_append] at after ⊢
      rw [before, after, List.append_assoc]
    · have kept : y.spelling = p.lexeme.spelling := by
        rw [spelling_of_renumber hy, if_neg hk]
      have after := ih front (pending ++ (p.gap ++ p.lexeme.spelling))
      rw [if_neg hk, kept, List.nil_append]
      simp only [List.length_append, List.append_assoc, Nat.add_assoc] at after ⊢
      exact after

/-- The references of a text are the matches of their pattern in it, and nothing else is. So the
numbers of a text are those of the matches, the first match is what the display of a message looks
for, and renumbering is substitution for the matches. -/
theorem references_are_matches (text : String) :
    ∃ ms, (∀ ms', Matches IsReference 0 text.toList ms' ↔ ms' = ms) ∧
      ((scan text).filter fun t => t.kind = .lineRef).map (fun t => (t.position, t.finish)) =
        ms.map (fun m => ((m.start : Int), (m.finish : Int))) ∧
      lineReferences text = ms.filterMap (fun m => writtenNumber? m.run) ∧
      firstMark isDigit text.toList = ms.head?.elim [] Found.run ∧
      ∀ f text', renumber f text = .ok text' ↔
        (∀ k ∈ lineReferences text, f k = k ∨ Numeral.withinLimit (f k) = true) ∧
          text'.toList = substitute (rewritten f) text.toList 0 ms := by
  have proper := proper_cut text.toList
  have whole : Cut.spelling ⟨(cut text.toList).pieces, (cut text.toList).tail⟩ = text.toList :=
    spelling_cut text.toList
  have found := matches_of_proper proper 0
  have first := firstMark_of_proper proper 0
  rw [whole] at found first
  refine ⟨referencesFound (scan text), fun ms' => ⟨found.unique, ?_⟩, ?_, ?_, first, ?_⟩
  · rintro rfl
    exact found
  · rw [referencesFound, List.map_map]
    refine List.map_congr_left fun t ht => ?_
    have natural := ((tiles_scan text).inside t (List.mem_of_mem_filter ht)).1
    rw [Function.comp_apply, Token.found, Found.finish, Token.finish]
    ext <;> push_cast <;> omega
  · rw [lineReferences, referencesFound, List.filterMap_map, List.filterMap_filter]
    refine List.filterMap_congr fun t _ => ?_
    by_cases hk : t.kind = .lineRef
    · simp [hk, Token.found, writtenNumber?_spelling]
    · simp [hk, Lexeme.reference?]
  · intro f text'
    have new {text'' : String} (done : renumber f text = .ok text'') :
        text''.toList = substitute (rewritten f) text.toList 0 (referencesFound (scan text)) := by
      obtain ⟨pieces, moved, rfl⟩ := renumber_eq_ok_iff.mp done
      have same := substitute_pieces moved [] [] (cut text.toList).tail
      rw [List.nil_append, List.nil_append, List.nil_append, whole] at same
      exact String.toList_ofList.trans same.symm
    constructor
    · exact fun done => ⟨exists_renumber_eq_ok_iff.mp ⟨text', done⟩, new done⟩
    · rintro ⟨short, same⟩
      obtain ⟨text'', done⟩ := exists_renumber_eq_ok_iff.mpr short
      obtain rfl := String.toList_injective (same.trans (new done).symm)
      exact done

example : substitute (rewritten fun k => k + 1) "a$9.5$$09#$x".toList 0
    (referencesFound (scan "a$9.5$$09#$x")) = "a$10.5$$10#$x".toList := by
  decide +kernel

end Worksheet

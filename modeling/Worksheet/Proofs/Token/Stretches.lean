import Worksheet.Proofs.Token.Renumber
import Worksheet.Proofs.Token.Spans

/-!
Renumbering and the stretches between tokens. The tokens of a renumbered text pair up with those of
the text, the numerals of references with a new number are the only ones to change, and what stands
before, between and after the tokens is the same (`scan_renumber`). A text that is renumbered twice
and one that is renumbered at once refer to the same lines and are cut alike; they differ at most in
the digits of a reference that comes back to its number (`renumber_renumber`).
-/

set_option autoImplicit false
set_option relaxedAutoImplicit false

namespace Worksheet

/-- The stretches around tokens in the characters from offset `start` on: what stands before each
token, and what stands after the last. -/
def stretchesFrom (cs : List Char) : Nat → List Token → List String
  | start, [] => [String.ofList (cs.drop start)]
  | start, t :: ts =>
    String.ofList (cs.extract start t.position.toNat) :: stretchesFrom cs t.finish.toNat ts

def stretches (text : String) : List String := stretchesFrom text.toList 0 (scan text)

private theorem stretchesFrom_tokensFrom (front tail : List Char) (ps : List Piece) :
    stretchesFrom (front ++ Cut.spelling ⟨ps, tail⟩) front.length (tokensFrom front.length ps) =
      (ps.map Piece.gap ++ [tail]).map String.ofList := by
  induction ps generalizing front with
  | nil => simp [tokensFrom, stretchesFrom, Cut.spelling]
  | cons p ps ih =>
    have gap : (front ++ (p.gap ++ (p.lexeme.spelling ++ Cut.spelling ⟨ps, tail⟩))).extract
        front.length (front.length + p.gap.length) = p.gap :=
      extract_middle front p.gap _ rfl rfl
    have finish : (Token.finish ⟨p.lexeme, (front.length + p.gap.length : Nat)⟩).toNat =
        (front ++ p.spelling).length := by
      rw [Tiles.finish_eq rfl, Int.toNat_natCast, List.length_append, Piece.spelling,
        List.length_append, Nat.add_assoc]
    have length : front.length + p.spelling.length = (front ++ p.spelling).length :=
      List.length_append.symm
    have after := ih (front ++ p.spelling)
    rw [Piece.spelling, List.append_assoc, List.append_assoc, ← Piece.spelling] at after
    rw [Cut.spelling_cons, tokensFrom, stretchesFrom, Int.toNat_natCast, gap, finish, length, after,
      List.map_cons, List.cons_append, List.map_cons]

private theorem stretches_eq (text : String) :
    stretches text =
      ((cut text.toList).pieces.map Piece.gap ++ [(cut text.toList).tail]).map String.ofList := by
  have whole := stretchesFrom_tokensFrom [] (cut text.toList).tail (cut text.toList).pieces
  rwa [show Cut.spelling ⟨_, _⟩ = text.toList from spelling_cut text.toList] at whole

/-- A mark beside the one that takes its place when every reference to `k` is made one to `f k`. -/
structure Lexeme.Respelled (f : Nat → Nat) (x y : Lexeme) : Prop where
  kind : y.kind = x.kind
  moved : ∀ k, x.reference? = some k → f k ≠ k → y.text = String.ofList (Numeral.ofNat (f k))
  kept : (∀ k, x.reference? = some k → f k = k) → y.text = x.text

private theorem Lexeme.respelled_of_renumber {f : Nat → Nat} {x y : Lexeme}
    (h : x.renumber (fun k => f k) = .ok y) : x.Respelled f y := by
  rcases renumber_cases h with ⟨rfl, fixed⟩ | ⟨k, hx, moved, -, rfl⟩
  · exact ⟨rfl, fun k hk moved => absurd (fixed k hk) moved, fun _ => rfl⟩
  · refine ⟨(kind_of_reference? hx).symm, fun m hm _ => ?_, fun fixed => absurd (fixed k hx) moved⟩
    obtain rfl := Option.some.inj (hx.symm.trans hm)
    rfl

/-- A text whose references can be renumbered keeps its tokens but for their numbers, and all that
stands around them. -/
theorem scan_renumber {f : Nat → Nat} {text : String}
    (short : ∀ k ∈ lineReferences text, Numeral.withinLimit (f k) = true) :
    ∃ text', renumber (fun k => f k) text = .ok text' ∧
      List.Forall₂ (fun t u => t.toLexeme.Respelled f u.toLexeme) (scan text) (scan text') ∧
      stretches text' = stretches text ∧ lineReferences text' = (lineReferences text).map f := by
  obtain ⟨text', done⟩ := exists_renumber short
  obtain ⟨pieces, tail⟩ := cut_of_renumber done
  refine ⟨text', done, ?_, ?_, (textRenumbered_of_renumber done).lineReferences⟩
  · have marks : List.Forall₂ (Lexeme.Respelled f) (lexemes text) (lexemes text') := by
      rw [lexemes, lexemes, List.forall₂_map_left_iff, List.forall₂_map_right_iff]
      exact pieces.imp fun p q h => Lexeme.respelled_of_renumber (renumber_piece h).2
    rwa [← map_scan, ← map_scan, List.forall₂_map_left_iff, List.forall₂_map_right_iff] at marks
  · have gaps : (cut text.toList).pieces.map Piece.gap =
        (cut text'.toList).pieces.map Piece.gap := by
      rw [← List.forall₂_eq_eq_eq, List.forall₂_map_left_iff, List.forall₂_map_right_iff]
      exact pieces.imp fun p q h => (renumber_piece h).1.symm
    rw [stretches_eq, stretches_eq, gaps, tail]

theorem scan_renumber_successor :
    renumber (fun k => (k + 1 : Nat)) "$9$x # $09" = .ok "$10$x # $10" ∧
      List.Forall₂ (fun t u => t.toLexeme.Respelled (· + 1) u.toLexeme) (scan "$9$x # $09")
        (scan "$10$x # $10") ∧
      stretches "$10$x # $10" = stretches "$9$x # $09" ∧
      lineReferences "$10$x # $10" = (lineReferences "$9$x # $09").map (· + 1) := by
  have done : renumber (fun k => (k + 1 : Nat)) "$9$x # $09" = .ok "$10$x # $10" := by
    decide +kernel
  have short : ∀ k ∈ lineReferences "$9$x # $09", Numeral.withinLimit (k + 1 : Nat) = true := by
    decide +kernel
  obtain ⟨text', done', kept⟩ := scan_renumber short
  obtain rfl := Except.ok.inj (done.symm.trans done')
  exact ⟨done, kept⟩

/-! ## One renumbering after another -/

open Numeral

variable {f g : Nat → Nat}

private theorem stretches_of_renumber {text text' : String}
    (h : renumber (fun k => f k) text = .ok text') : stretches text' = stretches text := by
  obtain ⟨pieces, tail⟩ := cut_of_renumber h
  have gaps : (cut text'.toList).pieces.map Piece.gap = (cut text.toList).pieces.map Piece.gap := by
    rw [← List.forall₂_eq_eq_eq, List.forall₂_map_left_iff, List.forall₂_map_right_iff]
    exact (pieces.imp fun p q hp => (renumber_piece hp).1).flip
  rw [stretches_eq, stretches_eq, gaps, tail]

private theorem forall₂_scan {text text' : String}
    (h : renumber (fun k => f k) text = .ok text') :
    List.Forall₂ (fun t u => t.toLexeme.renumber (fun k => f k) = .ok u.toLexeme) (scan text)
      (scan text') := by
  have marks : List.Forall₂ (fun x y => x.renumber (fun k => f k) = .ok y) (lexemes text)
      (lexemes text') := by
    rw [lexemes, lexemes, List.forall₂_map_left_iff, List.forall₂_map_right_iff]
    exact (cut_of_renumber h).1.imp fun p q hp => (renumber_piece hp).2
  rwa [← map_scan, ← map_scan, List.forall₂_map_left_iff, List.forall₂_map_right_iff] at marks

/-- The texts `one` and `other` that a text became. All that stands around their tokens is the same,
and token by token so are their marks; but where the text refers to a number that `back` accepts,
they may have that number in digits of their own. -/
structure SameBut (back : Nat → Prop) (text one other : String) : Prop where
  around : stretches one = stretches other
  count : (scan one).length = (scan text).length ∧ (scan other).length = (scan text).length
  marks : ∀ (i : Nat) (t : Token), (scan text)[i]? = some t →
    ∃ u v, (scan one)[i]? = some u ∧ (scan other)[i]? = some v ∧
      (u.toLexeme = v.toLexeme ∨ ∃ k, back k ∧ t.toLexeme.reference? = some k ∧
        u.toLexeme.reference? = some k ∧ v.toLexeme.reference? = some k)

private theorem sameBut_of_renumber {text once twice both : String}
    (first : renumber (fun k => f k) text = .ok once)
    (next : renumber (fun k => g k) once = .ok twice)
    (direct : renumber (fun k => g (f k)) text = .ok both) :
    SameBut (fun k => g (f k) = k) text twice both := by
  have tokens := forall₂_scan first
  have tokens' := forall₂_scan next
  have tokens'' := forall₂_scan (f := fun k => g (f k)) direct
  have around : stretches twice = stretches both := by
    rw [stretches_of_renumber next, stretches_of_renumber first,
      stretches_of_renumber (f := fun k => g (f k)) direct]
  refine ⟨around, ⟨?_, ?_⟩, fun i t ht => ?_⟩
  · rw [← tokens'.length_eq, ← tokens.length_eq]
  · exact tokens''.length_eq.symm
  · obtain ⟨s, hs, moved⟩ := exists_getElem?_of_forall₂ tokens ht
    obtain ⟨u, hu, moved'⟩ := exists_getElem?_of_forall₂ tokens' hs
    obtain ⟨v, hv, moved''⟩ := exists_getElem?_of_forall₂ tokens'' ht
    refine ⟨u, v, hu, hv, ?_⟩
    rcases Lexeme.renumber_twice moved moved' moved'' with same | ⟨k, hk, -, back, kept, -⟩
    · exact .inl same
    · have number := (Lexeme.renumbered_of_renumber moved').number
      rw [(Lexeme.renumbered_of_renumber moved).number, hk, Option.map_some, Option.map_some,
        back] at number
      exact .inr ⟨k, back, hk, number, kept ▸ hk⟩

/-- Renumbering twice is renumbering at once by the composite, if all numbers can be written: to the
digit where the references of the text are canonical numerals, and else but for the digits of
references that come back to their numbers. -/
theorem renumber_renumber {text : String} (short : ∀ k ∈ lineReferences text,
    withinLimit (f k) = true ∧ withinLimit (g (f k)) = true) :
    ∃ once twice both, renumber (fun k => f k) text = .ok once ∧
      renumber (fun k => g k) once = .ok twice ∧ renumber (fun k => g (f k)) text = .ok both ∧
      ((∀ t ∈ scan text, ∀ k, t.toLexeme.reference? = some k → Canonical t.text.toList) →
        twice = both) ∧
      lineReferences twice = lineReferences both ∧
      SameBut (fun k => g (f k) = k) text twice both := by
  obtain ⟨once, first⟩ := exists_renumber fun k hk => (short k hk).1
  have numbers := (textRenumbered_of_renumber first).lineReferences
  obtain ⟨twice, next⟩ : ∃ twice, renumber (fun k => g k) once = .ok twice := by
    refine exists_renumber ?_
    rw [numbers, List.forall_mem_map]
    exact fun k hk => (short k hk).2
  obtain ⟨both, direct⟩ := exists_renumber (g := fun k => g (f k)) fun k hk => (short k hk).2
  refine ⟨once, twice, both, first, next, direct, fun canonical => ?_, ?_,
    sameBut_of_renumber first next direct⟩
  · have composed := renumber_after (fun x hx k hk _ _ => ?_) first next
    · exact Except.ok.inj (composed.symm.trans direct)
    · rw [← map_scan] at hx
      obtain ⟨t, ht, rfl⟩ := List.mem_map.mp hx
      exact canonical t ht k hk
  · rw [(textRenumbered_of_renumber next).lineReferences, numbers, List.map_map,
      (textRenumbered_of_renumber (g := fun k => g (f k)) direct).lineReferences]
    rfl

theorem renumber_renumber_back :
    (∀ k ∈ lineReferences "$01$2 # $٢", withinLimit (k + 1 : Nat) = true ∧
        withinLimit (if k + 1 = 2 then 1 else k + 2 : Nat) = true) ∧
      renumber (fun k => (k + 1 : Nat)) "$01$2 # $٢" = .ok "$2$3 # $3" ∧
      renumber (fun k => (if k = 2 then 1 else k + 1 : Nat)) "$2$3 # $3" = .ok "$1$4 # $4" ∧
      renumber (fun k => (if k + 1 = 2 then 1 else k + 2 : Nat)) "$01$2 # $٢" =
        .ok "$01$4 # $4" ∧
      SameBut (fun k => (if k + 1 = 2 then 1 else k + 2) = k) "$01$2 # $٢" "$1$4 # $4"
        "$01$4 # $4" ∧
      (renumber (fun k => (k + 1 : Nat)) "$1$2" >>=
          renumber fun k => (if k = 2 then 1 else k + 1 : Nat)) =
        renumber (fun k => (if k + 1 = 2 then 1 else k + 2 : Nat)) "$1$2" := by
  have short : ∀ k ∈ lineReferences "$01$2 # $٢", withinLimit (k + 1 : Nat) = true ∧
      withinLimit (if k + 1 = 2 then 1 else k + 2 : Nat) = true := by decide +kernel
  have first : renumber (fun k => (k + 1 : Nat)) "$01$2 # $٢" = .ok "$2$3 # $3" := by
    decide +kernel
  have next : renumber (fun k => (if k = 2 then 1 else k + 1 : Nat)) "$2$3 # $3" =
      .ok "$1$4 # $4" := by decide +kernel
  have direct : renumber (fun k => (if k + 1 = 2 then 1 else k + 2 : Nat)) "$01$2 # $٢" =
      .ok "$01$4 # $4" := by decide +kernel
  refine ⟨short, first, next, direct, ?_, ?_⟩
  · obtain ⟨once, twice, both, first', next', direct', -, -, kept⟩ :=
      renumber_renumber (f := (· + 1)) (g := fun k => if k = 2 then 1 else k + 1) short
    obtain rfl := Except.ok.inj (first.symm.trans first')
    obtain rfl := Except.ok.inj (next.symm.trans next')
    obtain rfl := Except.ok.inj (direct.symm.trans direct')
    exact kept
  · have short : ∀ k ∈ lineReferences "$1$2", withinLimit (k + 1 : Nat) = true ∧
        withinLimit (if k + 1 = 2 then 1 else k + 2 : Nat) = true := by decide +kernel
    obtain ⟨once, twice, both, first', next', direct', same, -⟩ :=
      renumber_renumber (f := (· + 1)) (g := fun k => if k = 2 then 1 else k + 1) short
    obtain rfl := same (by decide +kernel)
    exact (bind_eq_ok_iff.mpr ⟨once, first', next'⟩).trans direct'.symm

end Worksheet

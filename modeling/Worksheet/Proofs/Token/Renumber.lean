import Worksheet.Proofs.Lockstep
import Worksheet.Proofs.Numeral.Digits
import Worksheet.Proofs.Token.Cut
import Worksheet.Reference

/-!
Renumbering and the cut of a line. The renumbered text is cut into pieces that pair up with those of
the text: the gaps are the same, and so are the marks but for the numbers of references
(`cut_renumber`). Renumberings that never lower a number compose, digits included (`renumber_bind`).
-/

set_option autoImplicit false
set_option relaxedAutoImplicit false

namespace Worksheet

open Text Numeral

variable {g : Nat → Nat}

namespace Lexeme

/-- A mark beside what it becomes when every reference to `k` is made one to `g k`. -/
structure Renumbered (g : Nat → Nat) (x y : Lexeme) : Prop where
  kind : y.kind = x.kind
  same : x.reference? = none → y = x
  number : y.reference? = x.reference?.map g

theorem kind_of_reference? {x : Lexeme} {k : Nat} (h : x.reference? = some k) :
    x.kind = .lineRef := by
  unfold reference? at h
  split at h
  · assumption
  · contradiction

private theorem reference?_ofNat {k : Nat} (short : withinLimit k = true) :
    (⟨.lineRef, String.ofList (ofNat k)⟩ : Lexeme).reference? = some k := by
  rw [reference?, if_pos rfl, String.toList_ofList, ofDigits?_ofNat short]

private theorem withinLimit_of_reference? {x : Lexeme} {k n : Nat} (h : x.reference? = some k)
    (hn : n ≤ k) : withinLimit n = true := by
  rw [reference?, if_pos (kind_of_reference? h)] at h
  exact withinLimit_of_ofDigits? h hn

private theorem eq_of_canonical {x : Lexeme} {rest : List Char} {k : Nat} (fits : x.FitsBefore rest)
    (hx : x.reference? = some k) (canonical : Canonical x.text.toList) :
    x = ⟨.lineRef, String.ofList (ofNat k)⟩ := by
  have kind := kind_of_reference? hx
  rw [reference?, if_pos kind] at hx
  rw [← value_of_ofDigits? hx, canonical.ofNat_value (fits.digits kind).1, String.ofList_toList,
    ← kind]

theorem Renumbered.head?_spelling {x y : Lexeme} (h : Renumbered g x y) :
    y.spelling.head? = x.spelling.head? := by
  cases hx : x.reference? with
  | none => rw [h.same hx]
  | some k =>
    have kx := kind_of_reference? hx
    have ky := h.kind.trans kx
    simp [spelling, kx, ky, TokenKind.hasSigil]

theorem renumber_cases {x y : Lexeme} (h : x.renumber (fun k => g k) = .ok y) :
    (y = x ∧ ∀ k, x.reference? = some k → g k = k) ∨
      ∃ k, x.reference? = some k ∧ g k ≠ k ∧ withinLimit (g k) = true ∧
        y = ⟨.lineRef, String.ofList (ofNat (g k))⟩ := by
  unfold renumber at h
  cases hx : x.reference? with
  | none =>
    rw [hx] at h
    exact .inl ⟨(Except.ok.inj h).symm, nofun⟩
  | some k =>
    simp only [hx] at h
    split at h
    · next fixed =>
      refine .inl ⟨(Except.ok.inj h).symm, fun m hm => ?_⟩
      obtain rfl := Option.some.inj hm
      exact Int.ofNat.inj fixed
    · next moved =>
      split at h
      · next short =>
        have text := Except.ok.inj h
        rw [ofInt_natCast] at text
        exact .inr ⟨k, rfl, fun same => moved (congrArg Int.ofNat same), short, text.symm⟩
      · exact nomatch h

theorem renumbered_of_renumber {x y : Lexeme} (h : x.renumber (fun k => g k) = .ok y) :
    Renumbered g x y := by
  rcases renumber_cases h with ⟨rfl, fixed⟩ | ⟨k, hx, -, short, rfl⟩
  · refine ⟨rfl, fun _ => rfl, ?_⟩
    cases hy : y.reference? with
    | none => rfl
    | some k => rw [Option.map_some, fixed k hy]
  · refine ⟨(kind_of_reference? hx).symm, fun none => by simp [hx] at none, ?_⟩
    rw [hx, reference?_ofNat short, Option.map_some]

private theorem FitsBefore.renumber {x y : Lexeme} {rest : List Char} (fits : x.FitsBefore rest)
    (h : x.renumber (fun k => g k) = .ok y) : y.FitsBefore rest := by
  rcases renumber_cases h with ⟨rfl, -⟩ | ⟨k, hx, -, -, rfl⟩
  · exact fits
  · have boundary := (fits.digits (kind_of_reference? hx)).2.2
    exact fitsBefore_digits (ofNat_ne_nil _) (fun _ => isDigit_of_mem_ofNat) boundary

private theorem renumber_undo {f : Nat → Nat} {x y : Lexeme} {rest : List Char}
    (fits : x.FitsBefore rest) (undone : ∀ k, x.reference? = some k → f (g k) = k)
    (canonical : ∀ k, x.reference? = some k → g k ≠ k → Canonical x.text.toList)
    (h : x.renumber (fun k => g k) = .ok y) : y.renumber (fun k => f k) = .ok x := by
  rcases renumber_cases h with ⟨rfl, fixed⟩ | ⟨k, hx, moved, short, rfl⟩
  · cases hy : y.reference? with
    | none => rw [renumber, hy]
    | some k =>
      have same : f k = k := by simpa only [fixed k hy] using undone k hy
      simp only [renumber, hy, same, if_pos]
  · have back : f (g k) = k := undone k hx
    have other : ¬ (k : Int) = (g k : Nat) := fun same => moved (Int.ofNat.inj same).symm
    have again := withinLimit_of_reference? hx (Nat.le_refl k)
    rw [eq_of_canonical fits hx (canonical k hx moved)]
    simp only [renumber, reference?_ofNat short, back, other, again, if_true, if_false,
      ofInt_natCast]

private theorem exists_renumber_iff {f : Nat → Int} {x : Lexeme} :
    (∃ y, x.renumber f = .ok y) ↔
      ∀ k, x.reference? = some k → f k = k ∨ withinLimit (f k) = true := by
  unfold renumber
  cases x.reference? with
  | none => exact ⟨fun _ => nofun, fun _ => ⟨x, rfl⟩⟩
  | some k =>
    simp only [Option.some.injEq, forall_eq']
    split
    · next same => exact ⟨fun _ => .inl same, fun _ => ⟨x, rfl⟩⟩
    · next other =>
      split
      · next short => exact ⟨fun _ => .inr short, fun _ => ⟨_, rfl⟩⟩
      · next long =>
        refine ⟨fun done => ?_, fun short => (short.elim other long).elim⟩
        obtain ⟨y, hy⟩ := done
        exact nomatch hy

private theorem Renumbered.symm {f : Nat → Nat} {x y : Lexeme} (h : Renumbered g x y)
    (undone : ∀ k, x.reference? = some k → f (g k) = k) : Renumbered f y x where
  kind := h.kind.symm
  same hy := by
    rw [h.number, Option.map_eq_none_iff] at hy
    exact (h.same hy).symm
  number := by
    rw [h.number]
    cases hx : x.reference? with
    | none => rfl
    | some k => simp [undone k hx]

end Lexeme

structure Piece.Renumbered (g : Nat → Nat) (p q : Piece) : Prop where
  gap : q.gap = p.gap
  lexeme : p.lexeme.Renumbered g q.lexeme

theorem renumber_piece {f : Nat → Int} {p q : Piece} (h : p.renumber f = .ok q) :
    q.gap = p.gap ∧ p.lexeme.renumber f = .ok q.lexeme := by
  obtain ⟨y, hy, hq⟩ := exists_ok_of_bind h
  obtain rfl := Except.ok.inj hq
  exact ⟨rfl, hy⟩

private theorem renumbered_piece {p q : Piece} (h : p.renumber (fun k => g k) = .ok q) :
    p.Renumbered g q :=
  ⟨(renumber_piece h).1, Lexeme.renumbered_of_renumber (renumber_piece h).2⟩

private theorem head?_spelling {ps qs : List Piece} (tail : List Char)
    (h : List.Forall₂ (Piece.Renumbered g) ps qs) :
    (Cut.spelling ⟨qs, tail⟩).head? = (Cut.spelling ⟨ps, tail⟩).head? := by
  induction h with
  | nil => rfl
  | cons h _ ih =>
    simp only [Cut.spelling_cons, List.head?_append, h.gap, h.lexeme.head?_spelling, ih]

private theorem properBefore_renumber {ps qs : List Piece} {tail : List Char}
    (h : List.Forall₂ (fun p q => p.renumber (fun k => g k) = .ok q) ps qs)
    (proper : Cut.ProperBefore tail ps) : Cut.ProperBefore tail qs := by
  induction h with
  | nil => exact proper
  | cons h hs ih =>
    obtain ⟨gap, fits, proper⟩ := proper
    obtain ⟨sameGap, hx⟩ := renumber_piece h
    have head := head?_spelling tail (hs.imp fun _ _ => renumbered_piece)
    exact ⟨sameGap ▸ gap, (fits.renumber hx).narrow (.of_head? head), ih proper⟩

private theorem ofList_spelling_cut (text : String) :
    String.ofList (cut text.toList).spelling = text :=
  (congrArg String.ofList (spelling_cut text.toList)).trans String.ofList_toList

theorem renumber_eq_ok_iff {f : Nat → Int} {text text' : String} :
    renumber f text = .ok text' ↔
      ∃ pieces, List.Forall₂ (fun p q => p.renumber f = .ok q) (cut text.toList).pieces pieces ∧
        text' = String.ofList (Cut.spelling ⟨pieces, (cut text.toList).tail⟩) := by
  rw [renumber, bind_eq_ok_iff]
  simp only [mapM_eq_ok_iff, Except.ok.injEq, @eq_comm _ text']

theorem cut_of_renumber {text text' : String} (h : renumber (fun k => g k) text = .ok text') :
    List.Forall₂ (fun p q => p.renumber (fun k => g k) = .ok q) (cut text.toList).pieces
        (cut text'.toList).pieces ∧ (cut text'.toList).tail = (cut text.toList).tail := by
  obtain ⟨pieces, hp, rfl⟩ := renumber_eq_ok_iff.mp h
  rw [String.toList_ofList, cut_spelling (properBefore_renumber hp (proper_cut text.toList))]
  exact ⟨hp, rfl⟩

theorem cut_renumber {text text' : String} (h : renumber (fun k => g k) text = .ok text') :
    List.Forall₂ (Piece.Renumbered g) (cut text.toList).pieces (cut text'.toList).pieces ∧
      (cut text'.toList).tail = (cut text.toList).tail :=
  ⟨(cut_of_renumber h).1.imp fun _ _ => renumbered_piece, (cut_of_renumber h).2⟩

theorem lineReferences_eq (text : String) :
    lineReferences text = (lexemes text).filterMap Lexeme.reference? := by
  rw [← map_scan, List.filterMap_map]
  rfl

theorem mem_lineReferences {text : String} {k : Nat} :
    k ∈ lineReferences text ↔ ∃ x ∈ lexemes text, x.reference? = some k := by
  rw [lineReferences_eq, List.mem_filterMap]

/-- A text that was renumbered is renumbered back, character for character, if the references whose
numbers changed were canonical numerals. -/
theorem renumber_undo {f : Nat → Nat} {text text' : String}
    (undone : ∀ k ∈ lineReferences text, f (g k) = k)
    (canonical : ∀ x ∈ lexemes text, ∀ k, x.reference? = some k → g k ≠ k →
      Canonical x.text.toList)
    (h : renumber (fun k => g k) text = .ok text') : renumber (fun k => f k) text' = .ok text := by
  obtain ⟨pieces, tail⟩ := cut_of_renumber h
  have back : List.Forall₂ (fun q p => q.renumber (fun k => f k) = .ok p)
      (cut text'.toList).pieces (cut text.toList).pieces := by
    refine ((forall₂_mem pieces).imp fun p q ⟨hp, _, hq⟩ => ?_).flip
    obtain ⟨gap, hx⟩ := renumber_piece hq
    have mark : p.lexeme ∈ lexemes text := List.mem_map_of_mem hp
    obtain ⟨rest, fits⟩ := exists_fitsBefore mark
    have restored := Lexeme.renumber_undo fits
      (fun k hk => undone k (mem_lineReferences.mpr ⟨p.lexeme, mark, hk⟩))
      (canonical p.lexeme mark) hx
    show q.renumber (fun k => f k) = .ok p
    rw [Piece.renumber, restored, gap]
    rfl
  exact renumber_eq_ok_iff.mpr ⟨_, back, by rw [tail]; exact (ofList_spelling_cut text).symm⟩

theorem renumber_eq_self {text : String} (fixed : ∀ k ∈ lineReferences text, g k = k) :
    renumber (fun k => g k) text = .ok text := by
  refine renumber_eq_ok_iff.mpr ⟨(cut text.toList).pieces, List.forall₂_same.mpr fun p hp => ?_, ?_⟩
  · have mark : p.lexeme.renumber (fun k => g k) = .ok p.lexeme := by
      unfold Lexeme.renumber
      cases hk : p.lexeme.reference? with
      | none => rfl
      | some k =>
        exact if_pos (congrArg Int.ofNat
          (fixed k (mem_lineReferences.mpr ⟨p.lexeme, List.mem_map_of_mem hp, hk⟩)))
    rw [Piece.renumber, mark]
    rfl
  · exact (ofList_spelling_cut text).symm

def TextRenumbered (g : Nat → Nat) (text text' : String) : Prop :=
  List.Forall₂ (Lexeme.Renumbered g) (lexemes text) (lexemes text')

theorem textRenumbered_of_renumber {text text' : String}
    (h : renumber (fun k => g k) text = .ok text') : TextRenumbered g text text' := by
  rw [TextRenumbered, lexemes, lexemes, List.forall₂_map_left_iff, List.forall₂_map_right_iff]
  exact (cut_renumber h).1.imp fun _ _ hp => hp.lexeme

private theorem filterMap_renumbered {xs ys : List Lexeme}
    (h : List.Forall₂ (Lexeme.Renumbered g) xs ys) :
    ys.filterMap Lexeme.reference? = (xs.filterMap Lexeme.reference?).map g := by
  induction h with
  | nil => rfl
  | @cons x y xs ys hx _ ih =>
    rw [List.filterMap_cons, List.filterMap_cons, hx.number, ih]
    cases x.reference? <;> rfl

theorem TextRenumbered.lineReferences {text text' : String} (h : TextRenumbered g text text') :
    lineReferences text' = (lineReferences text).map g := by
  rw [lineReferences_eq, lineReferences_eq]
  exact filterMap_renumbered h

theorem TextRenumbered.lone {text text' : String} (h : TextRenumbered g text text') {x : Lexeme}
    (marks : lexemes text = [x]) : ∃ y, lexemes text' = [y] := by
  rw [TextRenumbered, marks, List.forall₂_cons_left_iff] at h
  obtain ⟨y, ys, -, none, marks'⟩ := h
  exact ⟨y, by rw [marks', List.forall₂_nil_left_iff.mp none]⟩

theorem TextRenumbered.symm {f : Nat → Nat} {text text' : String} (h : TextRenumbered g text text')
    (undone : ∀ k ∈ Worksheet.lineReferences text, f (g k) = k) : TextRenumbered f text' text := by
  have marks : ∀ x ∈ lexemes text, ∀ k, x.reference? = some k → f (g k) = k := fun x hx k hk =>
    undone k (mem_lineReferences.mpr ⟨x, hx, hk⟩)
  exact (((List.forall₂_and_left _ _).mpr ⟨marks, h⟩).imp fun _ _ hxy => hxy.2.symm hxy.1).flip

theorem withinLimit_of_mem_lineReferences {text : String} {k n : Nat} (h : k ∈ lineReferences text)
    (hn : n ≤ k) : withinLimit n = true := by
  obtain ⟨x, -, hx⟩ := mem_lineReferences.mp h
  exact Lexeme.withinLimit_of_reference? hx hn

theorem exists_renumber_eq_ok_iff {f : Nat → Int} {text : String} :
    (∃ text', renumber f text = .ok text') ↔
      ∀ k ∈ lineReferences text, f k = k ∨ withinLimit (f k) = true := by
  constructor
  · rintro ⟨text', done⟩ k hk
    obtain ⟨pieces, moved, -⟩ := renumber_eq_ok_iff.mp done
    obtain ⟨x, hx, number⟩ := mem_lineReferences.mp hk
    obtain ⟨p, hp, rfl⟩ := List.mem_map.mp hx
    obtain ⟨q, hq⟩ := exists_mapM_ok_iff.mp ⟨pieces, (mapM_eq_ok_iff _ _ _).mpr moved⟩ p hp
    obtain ⟨y, hy, -⟩ := exists_ok_of_bind hq
    exact Lexeme.exists_renumber_iff.mp ⟨y, hy⟩ k number
  · intro short
    have pieces : ∀ p ∈ (cut text.toList).pieces, ∃ q, p.renumber f = .ok q := by
      intro p hp
      obtain ⟨y, hy⟩ := Lexeme.exists_renumber_iff.mpr fun k hk =>
        short k (mem_lineReferences.mpr ⟨p.lexeme, List.mem_map_of_mem hp, hk⟩)
      exact ⟨⟨p.gap, y⟩, by rw [Piece.renumber, hy]; rfl⟩
    obtain ⟨qs, hqs⟩ := exists_mapM_ok pieces
    exact ⟨_, by rw [renumber, hqs]; rfl⟩

theorem exists_renumber {text : String}
    (h : ∀ k ∈ lineReferences text, withinLimit (g k) = true) :
    ∃ text', renumber (fun k => g k) text = .ok text' :=
  exists_renumber_eq_ok_iff.mpr fun k hk => .inr (h k hk)

theorem exists_renumber_iff {text : String} :
    (∃ text', renumber (fun k => g k) text = .ok text') ↔
      ∀ k ∈ lineReferences text, withinLimit (g k) = true := by
  refine ⟨fun ⟨text', done⟩ k hk => ?_, exists_renumber⟩
  have new : g k ∈ lineReferences text' := by
    rw [(textRenumbered_of_renumber done).lineReferences]
    exact List.mem_map_of_mem hk
  exact withinLimit_of_mem_lineReferences new (Nat.le_refl _)

/-! ## One renumbering after another -/

instance : Subsingleton RenumberError := ⟨fun _ _ => rfl⟩

theorem Lexeme.renumber_twice {f : Nat → Nat} {x y z w : Lexeme}
    (first : x.renumber (fun k => f k) = .ok y) (next : y.renumber (fun k => g k) = .ok z)
    (both : x.renumber (fun k => g (f k)) = .ok w) :
    z = w ∨ ∃ k, x.reference? = some k ∧ f k ≠ k ∧ g (f k) = k ∧ w = x ∧
      z = ⟨.lineRef, String.ofList (ofNat k)⟩ := by
  rcases renumber_cases first with ⟨rfl, fixed⟩ | ⟨k, hx, moved, short, rfl⟩
  · have same : y.renumber (fun k => g (f k)) = y.renumber fun k => g k := by
      unfold renumber
      cases hy : y.reference? with
      | none => rfl
      | some k => simp only [fixed k hy]
    exact .inl (Except.ok.inj (next.symm.trans (same.symm.trans both)))
  · have number := reference?_ofNat short
    rcases renumber_cases next with ⟨rfl, fixed⟩ | ⟨m, hm, -, -, rfl⟩
    · have same := fixed (f k) number
      rcases renumber_cases both with ⟨-, back⟩ | ⟨n, hn, -, -, rfl⟩
      · exact absurd (same.symm.trans (back k hx)) moved
      · obtain rfl := Option.some.inj (hx.symm.trans hn)
        exact .inl (by rw [same])
    · obtain rfl := Option.some.inj (number.symm.trans hm)
      rcases renumber_cases both with ⟨rfl, back⟩ | ⟨n, hn, -, -, rfl⟩
      · exact .inr ⟨k, hx, moved, back k hx, rfl, by rw [back k hx]⟩
      · obtain rfl := Option.some.inj (hx.symm.trans hn)
        exact .inl rfl

private theorem renumber_mark_after {f : Nat → Nat} {x y z : Lexeme} {rest : List Char}
    (fits : x.FitsBefore rest)
    (canonical : ∀ k, x.reference? = some k → f k ≠ k → g (f k) = k → Canonical x.text.toList)
    (first : x.renumber (fun k => f k) = .ok y) (next : y.renumber (fun k => g k) = .ok z) :
    x.renumber (fun k => g (f k)) = .ok z := by
  have short (k : Nat) (hx : x.reference? = some k) : withinLimit (g (f k)) = true := by
    refine Lexeme.withinLimit_of_reference? (x := z) (k := g (f k)) ?_ (Nat.le_refl _)
    rw [(Lexeme.renumbered_of_renumber next).number, (Lexeme.renumbered_of_renumber first).number,
      hx, Option.map_some, Option.map_some]
  obtain ⟨w, both⟩ := Lexeme.exists_renumber_iff.mpr fun k hx => .inr (short k hx)
  rcases Lexeme.renumber_twice first next both with rfl | ⟨k, hx, moved, back, rfl, rfl⟩
  · exact both
  · rwa [← Lexeme.eq_of_canonical fits hx (canonical k hx moved back)]

theorem renumber_after {f : Nat → Nat} {text text' text'' : String}
    (canonical : ∀ x ∈ lexemes text, ∀ k, x.reference? = some k → f k ≠ k → g (f k) = k →
      Canonical x.text.toList)
    (first : renumber (fun k => f k) text = .ok text')
    (next : renumber (fun k => g k) text' = .ok text'') :
    renumber (fun k => g (f k)) text = .ok text'' := by
  obtain ⟨pieces, tail⟩ := cut_of_renumber first
  obtain ⟨pieces'', pieces', rfl⟩ := renumber_eq_ok_iff.mp next
  have both := forall₂_mem (exists_forall₂_iff.mp ⟨_, pieces, pieces'⟩)
  refine renumber_eq_ok_iff.mpr ⟨pieces'', both.imp fun p r ⟨hp, _, q, hq, hr⟩ => ?_, by rw [tail]⟩
  obtain ⟨gap, hx⟩ := renumber_piece hq
  obtain ⟨gap', hy⟩ := renumber_piece hr
  have mark : p.lexeme ∈ lexemes text := List.mem_map_of_mem hp
  obtain ⟨rest, fits⟩ := exists_fitsBefore mark
  rw [Piece.renumber, renumber_mark_after fits (canonical p.lexeme mark) hx hy, ← gap, ← gap']
  rfl

/-- Of two renumberings that never lower a number, the second after the first is their composite. No
number that was raised is taken back, so no reference keeps its digits in one and is written anew in
the other. -/
theorem renumber_bind {f : Nat → Nat} (hf : ∀ k, k ≤ f k) (hg : ∀ k, k ≤ g k) (text : String) :
    (renumber (fun k => f k) text >>= renumber fun k => g k) =
      renumber (fun k => g (f k)) text := by
  have composed {text' text'' : String} (first : renumber (fun k => f k) text = .ok text')
      (next : renumber (fun k => g k) text' = .ok text'') :
      renumber (fun k => g (f k)) text = .ok text'' := by
    refine renumber_after (fun x _ k _ moved back => ?_) first next
    have := hf k
    have := hg (f k)
    omega
  refine except_ext fun text'' => ⟨fun done => ?_, fun done => ?_⟩
  · obtain ⟨text', first, next⟩ := exists_ok_of_bind done
    exact composed first next
  · have short := exists_renumber_iff.mp ⟨_, done⟩
    obtain ⟨text', first⟩ := exists_renumber (g := f) fun k hk =>
      withinLimit_iff.mpr ((hg (f k)).trans (withinLimit_iff.mp (short k hk)))
    have short' : ∀ k ∈ lineReferences text', withinLimit (g k) = true := by
      rw [(textRenumbered_of_renumber first).lineReferences, List.forall_mem_map]
      exact short
    obtain ⟨again, next⟩ := exists_renumber short'
    obtain rfl := Except.ok.inj (done.symm.trans (composed first next))
    exact bind_eq_ok_iff.mpr ⟨text', first, next⟩

end Worksheet

import Worksheet.Proofs.Evaluation.Alike
import Worksheet.Proofs.Expr.Completeness
import Worksheet.Proofs.Token.Renumber

/-!
The references of a text and the lines that they stand for.
-/

set_option autoImplicit false
set_option relaxedAutoImplicit false

namespace Worksheet

/-- Whether a text refers to line `k`, with however many digits. -/
def RefersTo (text : String) (k : Nat) : Prop :=
  ∃ t ∈ scan text, t.kind = .lineRef ∧ Numeral.value t.text.toList = k

theorem lineNumber?_of_lineRef {text : String} {x : Lexeme} (hx : x ∈ lexemes text)
    (hk : x.kind = .lineRef) :
    lineNumber? x.text = (x.reference?.map Int.ofNat).filter fun k => 1 ≤ k && k ≤ maxLine := by
  obtain ⟨rest, fits⟩ := exists_fitsBefore hx
  obtain ⟨hne, digits, -⟩ := fits.digits hk
  rw [lineNumber?, Numeral.readInt?_of_digits hne digits, Lexeme.reference?, if_pos hk]

theorem reference?_of_lineNumber? {text : String} {x : Lexeme} (hx : x ∈ lexemes text)
    (hk : x.kind = .lineRef) {k : Int} (h : lineNumber? x.text = some k) :
    ∃ n : Nat, k = n ∧ x.reference? = some n := by
  rw [lineNumber?_of_lineRef hx hk, Option.filter_eq_some_iff, Option.map_eq_some_iff] at h
  obtain ⟨⟨n, hn, rfl⟩, -⟩ := h
  exact ⟨n, rfl, hn⟩

private theorem value_of_reference? {x : Lexeme} {k : Nat} (h : x.reference? = some k) :
    Numeral.value x.text.toList = k := by
  unfold Lexeme.reference? at h
  split at h
  · exact Numeral.value_of_ofDigits? h
  · exact nomatch h

theorem Lexeme.valueIn?_eq {text : String} {x : Lexeme} (hx : x ∈ lexemes text)
    (hk : x.kind = .lineRef) {s : Scope}
    (numbers : ∀ k v, s.lineValue? k = some v → 1 ≤ k ∧ k ≤ maxLine) :
    x.valueIn? s = x.reference?.bind fun k => s.lineValue? k := by
  rw [Lexeme.valueIn?, lineNumber?_of_lineRef hx hk]
  cases x.reference? with
  | none => rfl
  | some k =>
    rw [Option.map_some, Option.bind_some, Option.filter_some]
    split
    · rfl
    · next outside =>
      cases hv : s.lineValue? k with
      | none => rfl
      | some v =>
        have inside := numbers k v hv
        simp only [Int.ofNat_eq_natCast, Bool.and_eq_true, decide_eq_true_eq] at outside
        exact absurd inside outside

theorem Lexeme.valueIn?_eq_some {text : String} {x : Lexeme} (hx : x ∈ lexemes text) {n : Nat}
    (hn : x.reference? = some n) {s : Scope} {w : Float} :
    x.valueIn? s = some w ↔ 1 ≤ n ∧ (n : Int) ≤ maxLine ∧ s.lineValue? n = some w := by
  rw [Lexeme.valueIn?, lineNumber?_of_lineRef hx (kind_of_reference? hn), hn, Option.map_some,
    Option.filter_some]
  split
  · next inside =>
    simp only [Int.ofNat_eq_natCast, Bool.and_eq_true, decide_eq_true_eq] at inside
    exact ⟨fun h => ⟨by omega, inside.2, h⟩, fun h => h.2.2⟩
  · next outside =>
    simp only [Int.ofNat_eq_natCast, Bool.and_eq_true, decide_eq_true_eq] at outside
    exact ⟨fun none => absurd none.symm (Option.some_ne_none w),
      fun h => absurd ⟨by omega, h.2.1⟩ outside⟩

theorem exists_lineValue_of_refersTo {text : String} {s : Scope} {v : Float}
    (h : (evaluateText text s).1 = .value v) {k : Nat} (refers : RefersTo text k) :
    ∃ w, s.lineValue? k = some w := by
  obtain ⟨t, ht, hk, rfl⟩ := refers
  have hx : t.toLexeme ∈ lexemes text := map_scan text ▸ List.mem_map_of_mem ht
  obtain ⟨k, w, hn, hw⟩ := resolved_of_value h hx hk
  obtain ⟨n, rfl, href⟩ := reference?_of_lineNumber? hx hk hn
  exact ⟨w, value_of_reference? href ▸ hw⟩

theorem exists_valueIn?_of_value {text : String} {s : Scope} {v : Float}
    (h : (evaluateText text s).1 = .value v) {n : Nat} (refers : n ∈ lineReferences text) :
    ∃ x ∈ lexemes text, x.reference? = some n ∧ ∃ w, x.valueIn? s = some w := by
  rw [lineReferences_eq] at refers
  obtain ⟨x, hx, hn⟩ := List.mem_filterMap.mp refers
  obtain ⟨k, w, number, found⟩ := resolved_of_value h hx (Lexeme.kind_of_reference? hn)
  exact ⟨x, hx, hn, w, Option.bind_eq_some_iff.mpr ⟨k, number, found⟩⟩

/-! ## A line that is one reference -/

private theorem parseText_lone {text : String} {x : Lexeme} (marks : lexemes text = [x])
    (hk : x.kind = .lineRef) {k : Int} (hn : lineNumber? x.text = some k) :
    parseText text = .tree (.line k) := by
  have line : DerivesLine (lexemes text) (.line k) :=
    marks ▸ .sum (.product (.factor (.power (.unary (.primary (.line hk hn))))))
  refine parseText_of_derivesLine line ?_
  simp [marks, withoutTarget, nestingCost, TokenKind.nestingCost, hk, Phrase.height, nestingLimit]

theorem evaluateText_lone {text : String} {s : Scope} {x : Lexeme} (marks : lexemes text = [x])
    (hk : x.kind = .lineRef) {w : Float} :
    (evaluateText text s).1 = .value w ↔ x.valueIn? s = some w ∧ w.isFinite = true := by
  constructor
  · intro value
    obtain ⟨k, v, hn, hv⟩ := resolved_of_value value (marks ▸ List.mem_singleton_self x) hk
    obtain ⟨e, after, parsed, evaluated, finite, -⟩ := evaluateText_eq_value value
    obtain rfl := Parse.tree.inj ((parseText_lone marks hk hn).symm.trans parsed)
    rw [heightLimit, Expr.eval, hv] at evaluated
    obtain ⟨rfl, -⟩ := Prod.mk.inj (Except.ok.inj evaluated)
    exact ⟨by rw [Lexeme.valueIn?, hn, Option.bind_some, hv], finite⟩
  · rintro ⟨value, finite⟩
    obtain ⟨k, hn, hw⟩ := Option.bind_eq_some_iff.mp value
    have evaluated : Expr.eval (.line k) heightLimit s = .ok (w, s) := by
      rw [heightLimit, Expr.eval, hw]
    rw [evaluateText, parseText_lone marks hk hn, Parse.evaluate, Expr.evaluate, evaluated]
    exact congrArg Prod.fst (if_pos finite)

end Worksheet

import Worksheet.Proofs.References
import Worksheet.Proofs.Sheet.Pass

/-!
Two passes side by side, of a sheet and of one whose lines stand elsewhere: `g` moves the numbers of
the first to those of the second, and the texts are renumbered by it. One line keeps the scopes
beside each other (`Beside.step`), and so does a whole pass (`Beside.run`).
-/

set_option autoImplicit false
set_option relaxedAutoImplicit false

namespace Worksheet

variable {g : Nat → Nat} {s t : Scope} {text text' : String}

/-- Outcomes that are the same but for the reason of a failure. -/
inductive Outcome.Agrees : Outcome → Outcome → Prop
  | value (v : Float) : Agrees (.value v) (.value v)
  | failure (why why' : Fault) : Agrees (.failure why) (.failure why')
  | blank : Agrees .blank .blank

theorem Outcome.Agrees.refl (o : Outcome) : o.Agrees o := by
  cases o with
  | value v => exact .value v
  | failure why => exact .failure why why
  | blank => exact .blank

theorem Outcome.Agrees.symm {o o' : Outcome} (h : o.Agrees o') : o'.Agrees o := by
  cases h with
  | value v => exact .value v
  | failure why why' => exact .failure why' why
  | blank => exact .blank

theorem lineOutcome_agrees_of (kind : LineKind.ofText text' = LineKind.ofText text)
    (values : ∀ v, (evaluateText text' t).1 = .value v ↔ (evaluateText text s).1 = .value v) :
    (lineOutcome text s).Agrees (lineOutcome text' t) := by
  have value (v : Float) : lineOutcome text' t = .value v ↔ lineOutcome text s = .value v := by
    rw [lineOutcome_eq_value, lineOutcome_eq_value, kind, values]
  have blank : lineOutcome text' t = .blank ↔ lineOutcome text s = .blank := by
    rw [lineOutcome_eq_blank, lineOutcome_eq_blank, kind]
  cases hs : lineOutcome text s with
  | value v => exact (value v).mpr hs ▸ .value v
  | blank => exact blank.mpr hs ▸ .blank
  | failure why =>
    cases ht : lineOutcome text' t with
    | value v => exact nomatch hs.symm.trans ((value v).mp ht)
    | blank => exact nomatch hs.symm.trans (blank.mp ht)
    | failure why' => exact .failure why why'

theorem value_iff_of_seenAlike (vars : ∀ x, t.variableValue? x = s.variableValue? x)
    (alike : List.Forall₂ (Lexeme.SeenAlike s t) (lexemes text) (lexemes text')) (v : Float) :
    (evaluateText text' t).1 = .value v ↔ (evaluateText text s).1 = .value v :=
  ⟨fun value => (value_of_seenAlike (fun x => (vars x).symm)
      (alike.flip.imp fun _ _ => Lexeme.SeenAlike.symm) value).1,
    fun value => (value_of_seenAlike vars alike value).1⟩

structure Line.Moved (g : Nat → Nat) (l l' : Line) : Prop where
  input : TextRenumbered g l.input l'.input
  outcome : l.outcome.Agrees l'.outcome

/-- Whether all lines that have a value have a number that a reference can have. -/
def Scope.Numbered (s : Scope) : Prop := ∀ k v, s.lineValue? k = some v → 1 ≤ k ∧ k ≤ maxLine

/-- Scopes with the same variables, in which the lines that `g` moves have the same values. -/
structure Beside (g : Nat → Nat) (s t : Scope) : Prop where
  vars : t.vars = s.vars
  line : ∀ k : Nat, t.lineValue? (g k) = s.lineValue? k
  left : s.Numbered
  right : t.Numbered

private theorem Scope.Numbered.after (h : s.Numbered) {n : Nat} (low : 1 ≤ n)
    (high : (n : Int) ≤ maxLine) (text : String) (o : Outcome) : (s.after n text o).Numbered :=
  of_lineValue?_after h ⟨by omega, high⟩ o

theorem Scope.Numbered.eq_none (h : s.Numbered) {k : Int} (hk : k < 1) : s.lineValue? k = none := by
  cases hv : s.lineValue? k with
  | none => rfl
  | some v => exact absurd (h k v hv).1 (by omega)

namespace Beside

private theorem seenAlike (h : Beside g s t) (texts : TextRenumbered g text text') :
    List.Forall₂ (Lexeme.SeenAlike s t) (lexemes text) (lexemes text') := by
  refine (forall₂_mem texts).imp fun x y ⟨hx, hy, moved⟩ => ⟨moved.kind, fun hk => ?_, fun hk => ?_⟩
  · rw [moved.same (if_neg hk)]
  · rw [Lexeme.valueIn?_eq hy (moved.kind.trans hk) h.right, Lexeme.valueIn?_eq hx hk h.left,
      moved.number]
    cases x.reference? with
    | none => rfl
    | some k => exact h.line k

private theorem variableValue?_eq (h : Beside g s t) (x : String) :
    t.variableValue? x = s.variableValue? x := by
  rw [Scope.variableValue?, h.vars, Scope.variableValue?]

private theorem lineOutcome_agrees (h : Beside g s t) (texts : TextRenumbered g text text') :
    (lineOutcome text s).Agrees (lineOutcome text' t) :=
  lineOutcome_agrees_of texts.lineKind
    (value_iff_of_seenAlike h.variableValue?_eq (h.seenAlike texts))

theorem step (h : Beside g s t) (apart : Function.Injective g)
    (texts : TextRenumbered g text text') {n : Nat} (low : 1 ≤ n) (high : (n : Int) ≤ maxLine)
    (low' : 1 ≤ g n) (high' : (g n : Int) ≤ maxLine) :
    Beside g (s.after n text (lineOutcome text s)) (t.after (g n) text' (lineOutcome text' t)) where
  left := h.left.after low high text _
  right := h.right.after low' high' text' _
  vars := by
    have agrees := h.lineOutcome_agrees texts
    generalize hs : lineOutcome text s = o, lineOutcome text' t = o' at agrees ⊢
    cases agrees with
    | value v =>
      obtain ⟨-, value⟩ := lineOutcome_eq_value.mp hs
      have assigned := (value_of_seenAlike h.variableValue?_eq (h.seenAlike texts) value).2
      rw [Scope.after, Scope.after, assigned]
      cases assigned? text with
      | none => exact h.vars
      | some x => exact congrArg (Bindings.put x v) h.vars
    | failure why why' => exact h.vars
    | blank => exact h.vars
  line k := by
    have agrees := h.lineOutcome_agrees texts
    generalize lineOutcome text s = o, lineOutcome text' t = o' at agrees ⊢
    cases agrees with
    | value v =>
      have same : ((g n : Int) = g k) ↔ ((n : Int) = k) := by
        rw [Int.ofNat_inj, Int.ofNat_inj, apart.eq_iff]
      simp [same, h.line k]
    | failure why why' => exact h.line k
    | blank => exact h.line k

/-- A whole pass, over lines that `g` moves one by one. -/
theorem run (h : Beside g s t) (apart : Function.Injective g) {texts texts' : List String}
    (renumbered : List.Forall₂ (TextRenumbered g) texts texts') {n m : Nat}
    (place : ∀ i < texts.length, g (n + i + 1) = m + i + 1)
    (high : ((n + texts.length : Nat) : Int) ≤ maxLine)
    (high' : ((m + texts.length : Nat) : Int) ≤ maxLine) :
    List.Forall₂ (Line.Moved g) (evaluateFrom n texts s).1 (evaluateFrom m texts' t).1 ∧
      Beside g (evaluateFrom n texts s).2 (evaluateFrom m texts' t).2 := by
  induction renumbered generalizing n m s t with
  | nil => exact ⟨.nil, h⟩
  | @cons text text' texts texts' first _ ih =>
    -- The first line is moved from `n + 1` to `m + 1`; the rest starts one further on both sides.
    rw [List.length_cons] at place high high'
    have here : g (n + 1) = m + 1 := place 0 (Nat.succ_pos _)
    have next := h.step apart first (n := n + 1) (by omega) (by omega) (by omega) (by omega)
    rw [here] at next
    rw [evaluateFrom_cons, evaluateFrom_cons]
    obtain ⟨lines, scopes⟩ := ih (n := n + 1) (m := m + 1) next (fun i hi => by
      have := place (i + 1) (Nat.succ_lt_succ hi)
      rw [show n + 1 + i + 1 = n + (i + 1) + 1 by omega, this]
      omega) (by omega) (by omega)
    exact ⟨.cons ⟨first, h.lineOutcome_agrees first⟩ lines, scopes⟩

theorem extra (h : Beside g s t) {n : Nat} (low : 1 ≤ n) (high : (n : Int) ≤ maxLine)
    (free : ∀ k, g k ≠ n) {o : Outcome} (silent : ∀ v, o = .value v → assigned? text = none) :
    Beside g s (t.after n text o) where
  left := h.left
  right := h.right.after low high text o
  vars := by
    cases o with
    | value v =>
      rw [Scope.after, silent v rfl]
      exact h.vars
    | failure why => exact h.vars
    | blank => exact h.vars
  line k := by
    cases o with
    | value v =>
      have other : ¬ ((n : Int) = g k) := fun same => free k (Int.ofNat_inj.mp same).symm
      simp [other, h.line k]
    | failure why => exact h.line k
    | blank => exact h.line k

end Beside

end Worksheet

import Worksheet.Proofs.Evaluation.Order

/-!
What a line needs of a scope and what it makes of it. A line with a value has bound all that it
mentions (`resolved_of_value`), and it changes the scope by its assignment alone: the value goes to
the variable that is assigned, and a line that assigns nothing or has no value changes nothing
(`evaluateText_snd`, `evaluateText_effect`).
-/

set_option autoImplicit false
set_option relaxedAutoImplicit false

namespace Worksheet

def Expr.target? : Expr → Option String
  | .assign name _ => some name
  | _ => none

def Scope.assign (s : Scope) (target : Option String) (v : Float) : Scope :=
  match target with
  | some name => s.bind name v
  | none => s

@[simp] theorem Scope.lineValue?_assign (s : Scope) (target : Option String) (v : Float) (k : Int) :
    (s.assign target v).lineValue? k = s.lineValue? k := by
  cases target <;> rfl

@[simp] theorem Scope.variableValue?_assign (s : Scope) (target : Option String) (v : Float) (x : String) :
    (s.assign target v).variableValue? x =
      if target = some x then some v else s.variableValue? x := by
  cases target with
  | none => rfl
  | some y => simp [assign]

/-! ## The scope after an expression -/

theorem Derives.target?_eq_none {p : Phrase} {xs : List Lexeme} {e : Expr} (h : Derives p xs e) :
    e.target? = none := by
  have free := h.assignFree
  cases e with
  | assign => exact free.elim
  | _ => rfl

theorem DerivesLine.yields {xs : List Lexeme} {e : Expr} (line : DerivesLine xs e) (s : Scope)
    (d : Nat) : Yields (s.assign e.target?) (e.value s) (e.eval d s) := by
  cases line with
  | sum h => exact h.target?_eq_none ▸ h.assignFree.yields d
  | @assign xs x y value _ _ h =>
    cases d with
    | zero => exact .tooDeep
    | succ d =>
      have value_eq : (Expr.assign x.text value).value s = value.value s >>= .ok :=
        (bind_pure (value.value s)).symm
      exact value_eq ▸ (h.assignFree.yields d).bind fun a => .done

theorem DerivesLine.eval {xs : List Lexeme} {e : Expr} (line : DerivesLine xs e) {d : Nat}
    {s after : Scope} {v : Float} (h : e.eval d s = .ok (v, after)) :
    after = s.assign e.target? v ∧ ∀ m ∈ e.mentions, m.BoundIn s := by
  obtain ⟨value, rfl⟩ := (h ▸ line.yields s d).of_ok
  exact ⟨rfl, (value ▸ line.answers).of_ok⟩

private theorem DerivesLine.line_mem_mentions {xs : List Lexeme} {e : Expr}
    (line : DerivesLine xs e) {x : Lexeme} (hx : x ∈ xs) (hk : x.kind = .lineRef) {k : Int}
    (hn : lineNumber? x.text = some k) : .line k ∈ e.mentions := by
  have mention : x.mention? = some (.line k) := by simp [Lexeme.mention?, hk, hn]
  cases line with
  | sum h => exact h.mentions ▸ List.mem_filterMap.mpr ⟨x, hx, mention⟩
  | assign hname hequals h =>
    rw [Expr.mentions, h.mentions]
    rcases List.mem_cons.mp hx with rfl | hx
    · exact TokenKind.noConfusion (hk.symm.trans hname)
    · rcases List.mem_cons.mp hx with rfl | hx
      · exact TokenKind.noConfusion (hk.symm.trans hequals)
      · exact List.mem_filterMap.mpr ⟨x, hx, mention⟩

/-! ## Texts -/

def assigned? (text : String) : Option String :=
  match parseText text with
  | .tree e => e.target?
  | _ => none

theorem assigned?_eq_some {text x : String} :
    assigned? text = some x ↔ ∃ e, parseText text = .tree (.assign x e) := by
  unfold assigned?
  constructor
  · intro h
    split at h
    · next e he =>
      cases e with
      | assign name value =>
        obtain rfl := Option.some.inj h
        exact ⟨value, he⟩
      | _ => exact nomatch h
    · exact nomatch h
  · rintro ⟨e, he⟩
    rw [he]
    rfl

theorem assigned?_eq_none {text : String} (h : ∀ x e, parseText text ≠ .tree (.assign x e)) :
    assigned? text = none := by
  cases assigns : assigned? text with
  | none => rfl
  | some x =>
    obtain ⟨e, parsed⟩ := assigned?_eq_some.mp assigns
    exact absurd parsed (h x e)

theorem evaluateText_eq_value {text : String} {s : Scope} {v : Float}
    (h : (evaluateText text s).1 = .value v) :
    ∃ e after, parseText text = .tree e ∧ e.eval heightLimit s = .ok (v, after) ∧
      v.isFinite = true ∧ evaluateText text s = (.value v, after) := by
  unfold evaluateText Parse.evaluate at h ⊢
  split at h
  · next e he =>
    unfold Expr.evaluate at h ⊢
    split at h
    · next w after hw =>
      split at h
      · next finite =>
        obtain rfl := Outcome.value.inj h
        exact ⟨e, after, he, hw, finite, by simp [finite]⟩
      · exact nomatch h
    · exact nomatch h
  · exact nomatch h
  · exact nomatch h

theorem evaluateText_snd (text : String) (s : Scope) :
    (evaluateText text s).2 =
      match (evaluateText text s).1 with
      | .value v => s.assign (assigned? text) v
      | _ => s := by
  split
  · next v h =>
    obtain ⟨e, after, parsed, value, -, both⟩ := evaluateText_eq_value h
    rw [both, assigned?, parsed]
    exact ((derives_of_parseText parsed).eval value).1
  · next h =>
    unfold evaluateText Parse.evaluate Expr.evaluate at h ⊢
    split
    · split
      · split
        · next parsed _ _ _ value finite =>
          rw [parsed] at h
          simp only [value, finite, if_true] at h
          exact absurd rfl (h _)
        · rfl
      · rfl
    · rfl
    · rfl

theorem resolved_of_value {text : String} {s : Scope} {v : Float}
    (h : (evaluateText text s).1 = .value v) {x : Lexeme} (hx : x ∈ lexemes text)
    (hk : x.kind = .lineRef) : ∃ k w, lineNumber? x.text = some k ∧ s.lineValue? k = some w := by
  obtain ⟨e, after, parsed, value, -⟩ := evaluateText_eq_value h
  have line := derives_of_parseText parsed
  obtain ⟨k, hn⟩ := (line.legible x hx).number hk
  obtain ⟨w, hw⟩ := (line.eval value).2 _ (line.line_mem_mentions hx hk hn)
  exact ⟨k, w, hn, hw⟩

/-! ## Assignments -/

/-- A scope `s` that becomes `after` where `x` takes the value `v` of `e`. -/
structure Binds (x : String) (e : Expr) (v : Float) (s after : Scope) : Prop where
  finite : v.isFinite = true
  /-- The value is that of `e` before, with the old value of `x`. -/
  value : e.evaluate s = (.value v, s)
  scope : after = s.bind x v
  target : after.variableValue? x = some v
  name : ∀ y, y ≠ x → after.variableValue? y = s.variableValue? y
  line : ∀ k, after.lineValue? k = s.lineValue? k

theorem DerivesLine.binds {xs : List Lexeme} {x : String} {e : Expr}
    (line : DerivesLine xs (.assign x e)) {s after : Scope} {v : Float}
    (evaluated : (Expr.assign x e).eval heightLimit s = .ok (v, after))
    (finite : v.isFinite = true) : Binds x e v s after := by
  obtain ⟨⟨a, s⟩, inner, outer⟩ := exists_ok_of_bind evaluated
  obtain ⟨rfl, rfl⟩ := Prod.mk.inj (Except.ok.inj outer)
  cases line with
  | sum h => exact h.assignFree.elim
  | @assign _ mark _ _ _ _ h =>
    obtain ⟨-, rfl⟩ := (inner ▸ h.assignFree.yields _).of_ok
    have name := Scope.variableValue?_bind s mark.text
    refine ⟨finite, ?_, rfl, (name _ a).trans (if_pos rfl), fun y hy => ?_, fun _ => rfl⟩
    · have alone : e.eval heightLimit s = .ok (a, s) := Expr.eval_succ inner
      simp only [Expr.evaluate, alone, finite, if_true]
    · exact (name y a).trans (if_neg hy.symm)

/-- A line changes the scope if it is an assignment with a value, by that value, and in no other
case. -/
theorem evaluateText_effect (text : String) (s : Scope) :
    (∀ x e v, parseText text = .tree (.assign x e) → (evaluateText text s).1 = .value v →
        Binds x e v s (evaluateText text s).2) ∧
      ((∀ x e v, parseText text = .tree (.assign x e) → (evaluateText text s).1 ≠ .value v) →
        (evaluateText text s).2 = s) := by
  constructor
  · intro x e v parsed value
    obtain ⟨e', after, parsed', evaluated, finite, both⟩ := evaluateText_eq_value value
    obtain rfl := Parse.tree.inj (parsed.symm.trans parsed')
    rw [both]
    exact (derives_of_parseText parsed).binds evaluated finite
  · intro other
    rw [evaluateText_snd]
    split
    · next v value => rw [assigned?_eq_none fun x e parsed => other x e v parsed value]; rfl
    · rfl

theorem evaluateText_effect_reassign :
    (evaluateText "$x = $x + 1" ⟨[("x", 2), ("y", 5)], [(1, 7)]⟩).1 = .value 3 ∧
      Binds "x" (.binary .add (.var "x") (.number 1)) 3 ⟨[("x", 2), ("y", 5)], [(1, 7)]⟩
        ⟨[("x", 3), ("y", 5)], [(1, 7)]⟩ ∧
      (evaluateText "$x = 1 / 0" ⟨[("x", 2), ("y", 5)], [(1, 7)]⟩).2 =
        ⟨[("x", 2), ("y", 5)], [(1, 7)]⟩ := by
  have value : (evaluateText "$x = $x + 1" ⟨[("x", 2), ("y", 5)], [(1, 7)]⟩).1 = .value 3 := by
    decide +kernel
  have after : (evaluateText "$x = $x + 1" ⟨[("x", 2), ("y", 5)], [(1, 7)]⟩).2 =
      ⟨[("x", 3), ("y", 5)], [(1, 7)]⟩ := by decide +kernel
  have failed : (evaluateText "$x = 1 / 0" ⟨[("x", 2), ("y", 5)], [(1, 7)]⟩).1 =
      .failure (.infinite false) := by decide +kernel
  have parsed : parseText "$x = $x + 1" =
      .tree (.assign "x" (.binary .add (.var "x") (.number 1))) := by decide +kernel
  have binds := (evaluateText_effect _ _).1 "x" _ 3 parsed value
  rw [after] at binds
  refine ⟨value, binds, (evaluateText_effect _ _).2 fun _ _ _ _ h => ?_⟩
  exact Outcome.noConfusion (failed.symm.trans h)

end Worksheet

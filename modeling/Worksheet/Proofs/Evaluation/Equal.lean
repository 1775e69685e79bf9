import Worksheet.Proofs.Binary64.SameNumber
import Worksheet.Proofs.Evaluation.Alike
import Worksheet.Proofs.ScopeEquality

/-!
Equal scopes cannot be told apart. In scopes that are equal, with one zero for the other and in any
order, every text has equal outcomes that are shown alike, and it leaves equal scopes
(`evaluateText_equal`).
-/

set_option autoImplicit false
set_option relaxedAutoImplicit false

namespace Worksheet

open Binary64

variable {s t : Scope}

/-- Outcomes of one kind: values that are equal as numbers, or one and the same failure. -/
inductive Outcome.Equal : Outcome → Outcome → Prop
  | value {v w : Float} (equal : (v == w) = true) : Equal (.value v) (.value w)
  | failure (why : Fault) : Equal (.failure why) (.failure why)
  | blank : Equal .blank .blank

theorem Outcome.Equal.display {x y : Outcome} (h : x.Equal y) : y.display = x.display := by
  cases h with
  | value equal => exact showNumber_sameNumber (.of_beq equal)
  | failure why => rfl
  | blank => rfl

theorem sameNumber_congruence : Congruence SameNumber where
  refl := .refl
  neg := SameNumber.neg
  percent h := h.div 100
  binary op _ _ _ _ := op.apply_sameNumber
  call f _ _ := f.apply_sameNumber

abbrev Scope.SameNumbers (s t : Scope) : Prop :=
  s.Related SameNumber (fun _ => True) (fun k k' => k = k' ∧ True) t

theorem Scope.sameNumbers_of_beq (hs : s.Distinct) (ht : t.Distinct) (same : (s == t) = true) :
    s.SameNumbers t := by
  obtain ⟨names, lines⟩ := (Scope.beq_iff hs ht).mp same
  have number {x y : Option Float} (h : Option.Rel (fun v w => (v == w) = true) x y) :
      Option.Rel SameNumber x y := by
    cases h with
    | none => exact .none
    | some equal => exact .some (.of_beq equal)
  refine ⟨fun name _ => number (names name), ?_⟩
  rintro k _ ⟨rfl, -⟩
  exact number (lines k)

private theorem Expr.evaluate_equal (same : s.SameNumbers t) (e : Expr) :
    (e.evaluate s).1.Equal (e.evaluate t).1 := by
  have reads : e.Reads fun _ => True := e.reads_of_forall fun _ => trivial
  have steps := eval_related sameNumber_congruence heightLimit reads.alike reads same
  simp only [Expr.evaluate]
  generalize e.eval heightLimit s = r, e.eval heightLimit t = r' at steps ⊢
  cases steps with
  | error h =>
    rw [h.eq And.left]
    exact .failure _
  | @ok r r' h =>
    obtain ⟨v, after⟩ := r
    obtain ⟨w, after'⟩ := r'
    obtain ⟨value, -⟩ := h
    dsimp only at value ⊢
    rw [value.isFinite, Fault.ofValue_sameNumber value]
    split
    · next finite => exact .value (value.beq finite)
    · exact .failure _

private theorem Scope.beq_assign (hs : s.Distinct) (ht : t.Distinct) (same : (s == t) = true)
    (target : Option String) {v w : Float} (equal : (v == w) = true) :
    (s.assign target v == t.assign target w) = true := by
  cases target with
  | none => exact same
  | some name =>
    obtain ⟨names, lines⟩ := (Scope.beq_iff hs ht).mp same
    refine (Scope.beq_iff (hs.bind name v) (ht.bind name w)).mpr ⟨fun x => ?_, lines⟩
    rw [Scope.variableValue?_bind, Scope.variableValue?_bind]
    split
    · exact .some equal
    · exact names x

/-- In equal scopes a text has equal outcomes, with one text shown for them, and it leaves equal
scopes. No value in scopes that are equal is `NaN`, which is not equal to itself. -/
theorem evaluateText_equal (hs : s.Distinct) (ht : t.Distinct) (same : (s == t) = true)
    (text : String) :
    (evaluateText text s).1.Equal (evaluateText text t).1 ∧
      (evaluateText text t).1.display = (evaluateText text s).1.display ∧
      ((evaluateText text s).2 == (evaluateText text t).2) = true := by
  have outcomes : (evaluateText text s).1.Equal (evaluateText text t).1 := by
    unfold evaluateText Parse.evaluate
    cases parseText text with
    | tree e => exact e.evaluate_equal (Scope.sameNumbers_of_beq hs ht same)
    | refused why position => exact .failure _
    | empty => exact .blank
  refine ⟨outcomes, outcomes.display, ?_⟩
  rw [evaluateText_snd, evaluateText_snd text t]
  generalize (evaluateText text s).1 = x, (evaluateText text t).1 = y at outcomes
  cases outcomes with
  | value equal => exact Scope.beq_assign hs ht same _ equal
  | failure why => exact same
  | blank => exact same

theorem evaluateText_equal_zeros :
    let s : Scope := ⟨Bindings.ofList [("x", 0), ("y", 2)], Bindings.ofList [(1, 5)]⟩
    let t : Scope := ⟨Bindings.ofList [("y", 2), ("x", -0)], Bindings.ofList [(1, 5)]⟩
    s.Distinct ∧ t.Distinct ∧ (s == t) = true ∧
      (evaluateText "$z = -$x" s).1 = .value (-0) ∧
      (evaluateText "$z = -$x" t).1 = .value 0 ∧
      (evaluateText "$z = -$x" s).1.Equal (evaluateText "$z = -$x" t).1 ∧
      (evaluateText "$z = -$x" t).1.display = (evaluateText "$z = -$x" s).1.display ∧
      ((evaluateText "$z = -$x" s).2 == (evaluateText "$z = -$x" t).2) = true := by
  intro s t
  have distinct : s.Distinct := Scope.distinct_ofList _ _
  have distinct' : t.Distinct := Scope.distinct_ofList _ _
  have same : (s == t) = true := by decide +kernel
  have value : (evaluateText "$z = -$x" s).1 = .value (-0) := by decide +kernel
  have value' : (evaluateText "$z = -$x" t).1 = .value 0 := by decide +kernel
  exact ⟨distinct, distinct', same, value, value',
    evaluateText_equal distinct distinct' same "$z = -$x"⟩

end Worksheet

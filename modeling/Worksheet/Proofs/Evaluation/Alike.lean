import Worksheet.Proofs.Evaluation.Frame
import Worksheet.Proofs.Expr.Alike

/-!
The same line in other scopes. Expressions that are alike are worked out in lockstep where the
scopes are alike on what is read (`eval_alike`), and texts that are alike to their scopes have the
same value (`value_of_seenAlike`). So the outcome of a text depends on the scope only in what its
marks mention, the variable that it assigns left out (`evaluateText_frame`).
-/

set_option autoImplicit false
set_option relaxedAutoImplicit false

namespace Worksheet

variable {P : Mention → Prop} {R : Int → Int → Prop} {s t : Scope}

/-- Whether `P` holds of all that an expression reads, also in the bases of percentages. -/
def Expr.Reads (P : Mention → Prop) : Expr → Prop
  | .number _ => True
  | .binary _ left right => left.Reads P ∧ right.Reads P
  | .neg operand | .percent operand => operand.Reads P
  | .percentOf operand base => operand.Reads P ∧ base.Reads P
  | .var name => P (.name name)
  | .line k => P (.line k)
  | .assign _ value => value.Reads P
  | .call _ argument => argument.Reads P

structure Scope.Alike (P : Mention → Prop) (R : Int → Int → Prop) (s t : Scope) : Prop where
  name : ∀ name, P (.name name) → t.variableValue? name = s.variableValue? name
  line : ∀ {k k'}, R k k' → t.lineValue? k' = s.lineValue? k

inductive Fault.Alike (R : Int → Int → Prop) : Fault → Fault → Prop
  | same (why : Fault) : Alike R why why
  | unboundLine {k k' : Int} (h : R k k') : Alike R (.unboundLine k) (.unboundLine k')

theorem Fault.Alike.eq {why why' : Fault} (h : why.Alike R why')
    (lines : ∀ {k k'}, R k k' → k = k') : why' = why := by
  cases h with
  | same why => rfl
  | unboundLine h => rw [lines h]

/-! ## Evaluation in lockstep -/

variable {V : Float → Float → Prop}

/-- A relation between doubles that all operations of a worksheet keep, with the same faults. -/
structure Congruence (V : Float → Float → Prop) : Prop where
  refl : ∀ v, V v v
  neg : ∀ {a a'}, V a a' → V (-a) (-a')
  percent : ∀ {a a'}, V a a' → V (a / 100) (a' / 100)
  binary : ∀ (op : BinaryOp) {a a' b b'}, V a a' → V b b' →
    Lockstep Eq V (op.apply a b) (op.apply a' b')
  call : ∀ (f : Builtin) {a a'}, V a a' → Lockstep Eq V (f.apply a) (f.apply a')

theorem Congruence.eq : Congruence Eq where
  refl _ := rfl
  neg := congrArg _
  percent := congrArg (· / 100)
  binary op a _ b _ ha hb := ha ▸ hb ▸ .refl (fun _ => rfl) (fun _ => rfl) (op.apply a b)
  call f a _ ha := ha ▸ .refl (fun _ => rfl) (fun _ => rfl) (f.apply a)

/-- Scopes with related values for the variables in `P`, and for the lines with numbers in `R`. -/
structure Scope.Related (V : Float → Float → Prop) (P : Mention → Prop) (R : Int → Int → Prop)
    (s t : Scope) : Prop where
  name : ∀ name, P (.name name) → Option.Rel V (s.variableValue? name) (t.variableValue? name)
  line : ∀ {k k'}, R k k' → Option.Rel V (s.lineValue? k) (t.lineValue? k')

private theorem Scope.Related.bind (h : s.Related V P R t) (name : String) {v w : Float}
    (value : V v w) : (s.bind name v).Related V P R (t.bind name w) where
  name x hx := by
    rw [Scope.variableValue?_bind, Scope.variableValue?_bind]
    split
    · exact .some value
    · exact h.name x hx
  line := h.line

abbrev EvalRelated (V : Float → Float → Prop) (P : Mention → Prop) (R : Int → Int → Prop) :
    Except Fault (Float × Scope) → Except Fault (Float × Scope) → Prop :=
  Lockstep (Fault.Alike R) fun r r' => V r.1 r'.1 ∧ r.2.Related V P R r'.2

private theorem finish_related (hs : s.Related V P R t) {x y : Except Fault Float}
    (h : Lockstep Eq V x y) :
    EvalRelated V P R (x >>= fun v => .ok (v, s)) (y >>= fun v => .ok (v, t)) := by
  cases h with
  | error h => exact .error (h ▸ .same _)
  | ok h => exact .ok ⟨h, hs⟩

/-- Expressions that are alike have related values in related scopes, or fail for causes that are
alike. -/
theorem eval_related (kept : Congruence V) (d : Nat) : ∀ {e e' : Expr}, e.Alike R e' →
    e.Reads P → ∀ {s t : Scope}, s.Related V P R t →
    EvalRelated V P R (e.eval d s) (e'.eval d t) := by
  -- The scopes change on the way, so they are general in the induction and related again after it.
  induction d with
  | zero => intro e e' h reads s t hs; cases h <;> exact .error (.same _)
  | succ d ih =>
    intro e e' h reads s t hs
    cases h with
    | number v => exact .ok ⟨kept.refl v, hs⟩
    | binary op ha hb =>
      refine (ih ha reads.1 hs).bind ?_
      rintro ⟨a, s₁⟩ ⟨a', t₁⟩ ⟨va, hs₁⟩
      refine (ih hb reads.2 hs₁).bind ?_
      rintro ⟨b, s₂⟩ ⟨b', t₂⟩ ⟨vb, hs₂⟩
      exact finish_related hs₂ (kept.binary op va vb)
    | neg ha =>
      refine (ih ha reads hs).bind ?_
      rintro ⟨a, s₁⟩ ⟨a', t₁⟩ ⟨va, hs₁⟩
      exact .ok ⟨kept.neg va, hs₁⟩
    | percent ha =>
      refine (ih ha reads hs).bind ?_
      rintro ⟨a, s₁⟩ ⟨a', t₁⟩ ⟨va, hs₁⟩
      exact .ok ⟨kept.percent va, hs₁⟩
    | percentOf ha hb =>
      refine (ih ha reads.1 hs).bind ?_
      rintro ⟨a, s₁⟩ ⟨a', t₁⟩ ⟨va, hs₁⟩
      refine (ih hb reads.2 hs₁).bind ?_
      rintro ⟨b, s₂⟩ ⟨b', t₂⟩ ⟨vb, hs₂⟩
      exact finish_related hs₂ (kept.binary .multiply vb (kept.percent va))
    | var name =>
      have values := hs.name name reads
      rw [Expr.eval, Expr.eval]
      generalize s.variableValue? name = x, t.variableValue? name = y at values
      cases values with
      | none => exact .error (.same _)
      | some value => exact .ok ⟨value, hs⟩
    | @line k k' h =>
      have values := hs.line h
      rw [Expr.eval, Expr.eval]
      generalize s.lineValue? k = x, t.lineValue? k' = y at values
      cases values with
      | none => exact .error (.unboundLine h)
      | some value => exact .ok ⟨value, hs⟩
    | assign name ha =>
      refine (ih ha reads hs).bind ?_
      rintro ⟨a, s₁⟩ ⟨a', t₁⟩ ⟨va, hs₁⟩
      exact .ok ⟨va, hs₁.bind name va⟩
    | call function ha =>
      rw [Expr.eval, Expr.eval]
      cases Builtin.named? function with
      | none => exact .error (.same _)
      | some f =>
        refine (ih ha reads hs).bind ?_
        rintro ⟨a, s₁⟩ ⟨a', t₁⟩ ⟨va, hs₁⟩
        exact finish_related hs₁ (kept.call f va)

private theorem option_rel_eq {x y : Option Float} : Option.Rel Eq x y ↔ y = x := by
  constructor
  · intro h
    cases h with
    | none => rfl
    | some h => rw [h]
  · rintro rfl
    cases y with
    | none => exact .none
    | some v => exact .some rfl

private theorem Scope.related_eq_iff : s.Related Eq P R t ↔ s.Alike P R t := by
  constructor
  · intro h
    exact ⟨fun name hx => option_rel_eq.mp (h.name name hx), fun hk => option_rel_eq.mp (h.line hk)⟩
  · intro h
    exact ⟨fun name hx => option_rel_eq.mpr (h.name name hx),
      fun hk => option_rel_eq.mpr (h.line hk)⟩

abbrev EvalAlike (P : Mention → Prop) (R : Int → Int → Prop) :
    Except Fault (Float × Scope) → Except Fault (Float × Scope) → Prop :=
  Lockstep (Fault.Alike R) fun r r' => r'.1 = r.1 ∧ r.2.Alike P R r'.2

theorem eval_alike (d : Nat) {e e' : Expr} (h : e.Alike R e') (reads : e.Reads P)
    (hs : s.Alike P R t) : EvalAlike P R (e.eval d s) (e'.eval d t) :=
  (eval_related .eq d h reads (Scope.related_eq_iff.mpr hs)).imp (fun _ _ h => h)
    fun _ _ h => ⟨h.1.symm, Scope.related_eq_iff.mp h.2⟩

theorem Expr.reads_of_forall (h : ∀ m, P m) (e : Expr) : e.Reads P := by
  induction e with
  | number v => trivial
  | binary op _ _ iha ihb => exact ⟨iha, ihb⟩
  | neg _ ih => exact ih
  | percent _ ih => exact ih
  | percentOf _ _ iha ihb => exact ⟨iha, ihb⟩
  | var name => exact h _
  | line k => exact h _
  | assign name _ ih => exact ih
  | call function _ ih => exact ih

/-! ## Texts that are alike to their scopes -/

def Lexeme.valueIn? (s : Scope) (x : Lexeme) : Option Float :=
  (lineNumber? x.text).bind s.lineValue?

/-- Marks of one kind with one text; of references only the values count. -/
structure Lexeme.SeenAlike (s t : Scope) (x y : Lexeme) : Prop where
  kind : y.kind = x.kind
  text : x.kind ≠ .lineRef → y.text = x.text
  value : x.kind = .lineRef → y.valueIn? t = x.valueIn? s

theorem Lexeme.SeenAlike.symm {x y : Lexeme} (h : x.SeenAlike s t y) : y.SeenAlike t s x where
  kind := h.kind.symm
  text hy := (h.text (h.kind ▸ hy)).symm
  value hy := (h.value (h.kind ▸ hy)).symm

private theorem alike_of_seenAlike {x y : Lexeme} (h : x.SeenAlike s t y)
    (resolved : x.kind = .lineRef → ∃ k w, lineNumber? x.text = some k ∧ s.lineValue? k = some w) :
    x.Alike (fun k k' => t.lineValue? k' = s.lineValue? k) y := by
  refine ⟨h.kind, h.text, fun hk => ?_⟩
  obtain ⟨k, w, hn, hw⟩ := resolved hk
  have same := h.value hk
  rw [Lexeme.valueIn?, Lexeme.valueIn?, hn, Option.bind_some, hw] at same
  obtain ⟨k', hn', hw'⟩ := Option.bind_eq_some_iff.mp same
  rw [hn, hn']
  exact .some (hw'.trans hw.symm)

private theorem upToInvalidMark_alike {xs ys : List Lexeme}
    (h : List.Forall₂ (Lexeme.Alike R) xs ys) :
    List.Forall₂ (Lexeme.Alike R) (upToInvalidMark xs) (upToInvalidMark ys) :=
  forall₂_upToInvalidMark (fun _ _ hx => hx.kind) ⟨rfl, fun _ => rfl, nofun⟩ h

private theorem parseText_alike {text text' : String} {e : Expr}
    (h : List.Forall₂ (Lexeme.Alike R) (lexemes text) (lexemes text'))
    (parsed : parseText text = .tree e) : ∃ e', parseText text' = .tree e' ∧ e.Alike R e' := by
  obtain ⟨marks, read⟩ := parseText_eq_tree.mp parsed
  obtain ⟨e', read', alike⟩ := (read ▸ readAll_alike (upToInvalidMark_alike h)).exists_ok
  have marks' : lexemes text' ≠ [] := fun none => marks (by simpa [none] using h)
  exact ⟨e', parseText_eq_tree.mpr ⟨marks', read'⟩, alike⟩

private theorem Expr.Alike.target? {e e' : Expr} (h : e.Alike R e') : e'.target? = e.target? := by
  cases h <;> rfl

/-- A text that is alike to its scope has the value of the text beside it, and assigns the same
variable. -/
theorem value_of_seenAlike {text text' : String} {v : Float}
    (hv : ∀ name, t.variableValue? name = s.variableValue? name)
    (h : List.Forall₂ (Lexeme.SeenAlike s t) (lexemes text) (lexemes text'))
    (value : (evaluateText text s).1 = .value v) :
    (evaluateText text' t).1 = .value v ∧ assigned? text' = assigned? text := by
  have resolved : ∀ x ∈ lexemes text, x.kind = .lineRef →
      ∃ k w, lineNumber? x.text = some k ∧ s.lineValue? k = some w :=
    fun x hx hk => resolved_of_value value hx hk
  have alike := ((List.forall₂_and_left _ _).mpr ⟨resolved, h⟩).imp
    fun _ _ hxy => alike_of_seenAlike hxy.2 hxy.1
  have scopes : s.Alike (fun _ => True) (fun k k' => t.lineValue? k' = s.lineValue? k) t :=
    ⟨fun name _ => hv name, id⟩
  obtain ⟨e, after, parsed, evaluated, finite, -⟩ := evaluateText_eq_value value
  obtain ⟨e', parsed', he⟩ := parseText_alike alike parsed
  obtain ⟨⟨w, after'⟩, evaluated', rfl, -⟩ :=
    (evaluated ▸ eval_alike heightLimit he (e.reads_of_forall fun _ => trivial) scopes).exists_ok
  constructor
  · simp [evaluateText, parsed', Parse.evaluate, Expr.evaluate, evaluated', finite]
  · rw [assigned?, assigned?, parsed, parsed']
    exact he.target?

/-! ## What a text reads -/

def Mention.SameIn (s t : Scope) : Mention → Prop
  | .name x => t.variableValue? x = s.variableValue? x
  | .line k => t.lineValue? k = s.lineValue? k

theorem Expr.Formed.reads {e : Expr} (h : e.Formed) : (∀ m ∈ e.mentions, P m) → e.Reads P := by
  induction h with
  | number v => exact fun _ => trivial
  | var name => exact fun all => all _ List.mem_cons_self
  | line _ _ => exact fun all => all _ List.mem_cons_self
  | neg _ ih => exact ih
  | percent _ ih => exact ih
  | sqrt _ ih => exact ih
  | binary _ _ _ ihl ihr =>
    intro all
    rw [Expr.mentions, List.forall_mem_append] at all
    exact ⟨ihl all.1, ihr all.2⟩
  | sum _ _ _ _ ihl ihr =>
    intro all
    rw [Expr.mentions, List.forall_mem_append] at all
    exact ⟨ihl all.1, ihr all.2⟩
  | share _ _ _ ihl iho =>
    intro all
    rw [Expr.mentions, List.forall_mem_append] at all
    exact ⟨ihl all.1, iho all.2, ihl all.1⟩

private theorem DerivesLine.reads {xs : List Lexeme} {e : Expr} (line : DerivesLine xs e)
    (all : ∀ m ∈ e.mentions, P m) : e.Reads P := by
  cases line with
  | sum h => exact h.formed.reads all
  | assign _ _ h => exact h.formed.reads all

theorem Expr.Reads.alike {e : Expr} (h : e.Reads P) :
    e.Alike (fun k k' => k = k' ∧ P (.line k)) e := by
  induction e with
  | number v => exact .number v
  | binary op _ _ iha ihb => exact .binary op (iha h.1) (ihb h.2)
  | neg _ ih => exact .neg (ih h)
  | percent _ ih => exact .percent (ih h)
  | percentOf _ _ iha ihb => exact .percentOf (iha h.1) (ihb h.2)
  | var name => exact .var name
  | line k => exact .line ⟨rfl, h⟩
  | assign name _ ih => exact .assign name (ih h)
  | call function _ ih => exact .call function (ih h)

theorem Expr.Reads.evaluate_eq {e : Expr} (h : e.Reads (Mention.SameIn s t)) :
    (e.evaluate t).1 = (e.evaluate s).1 := by
  have scopes : s.Alike (Mention.SameIn s t)
      (fun k k' => k = k' ∧ Mention.SameIn s t (.line k)) t :=
    ⟨fun _ same => same, fun ⟨hk, same⟩ => hk ▸ same⟩
  have steps := eval_alike heightLimit h.alike h scopes
  simp only [Expr.evaluate]
  generalize e.eval heightLimit s = r, e.eval heightLimit t = r' at steps ⊢
  cases steps with
  | @ok r r' h =>
    obtain ⟨v, after⟩ := r
    obtain ⟨_, after'⟩ := r'
    obtain ⟨rfl, -⟩ := h
    dsimp only
    split <;> rfl
  | error h => rw [h.eq And.left]

/-- A text has one outcome in all scopes that have the same values for what its marks mention. -/
theorem evaluateText_frame {text : String}
    (same : ∀ x ∈ withoutTarget (lexemes text), ∀ m, x.mention? = some m → m.SameIn s t) :
    (evaluateText text t).1 = (evaluateText text s).1 := by
  unfold evaluateText Parse.evaluate
  cases parsed : parseText text with
  | empty => rfl
  | refused why position => rfl
  | tree e =>
    have line := derives_of_parseText parsed
    refine (line.reads fun m hm => ?_).evaluate_eq
    rw [line.mentions, List.mem_filterMap] at hm
    obtain ⟨x, hx, mention⟩ := hm
    exact same x hx m mention

theorem evaluateText_congr (hv : ∀ name, t.variableValue? name = s.variableValue? name)
    (hl : ∀ k, t.lineValue? k = s.lineValue? k) (text : String) :
    (evaluateText text t).1 = (evaluateText text s).1 := by
  refine evaluateText_frame fun x _ m _ => ?_
  cases m with
  | name name => exact hv name
  | line k => exact hl k

end Worksheet

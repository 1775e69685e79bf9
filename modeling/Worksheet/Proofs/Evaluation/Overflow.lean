import Worksheet.Proofs.Binary64.Status
import Worksheet.Proofs.Evaluation.Frame

/-!
Values that are not finite within a line. Every operation keeps them but for quotients by an
infinity and a few powers, which make numbers of them again (`BinaryOp.absorbs_iff`); so a line with
such a value fails unless an operation that stands around it does so (`evaluateText_overflow`).
-/

set_option autoImplicit false
set_option relaxedAutoImplicit false

namespace Worksheet

open Binary64

variable {s : Scope}

/-! ## Operations -/

/-- Whether an operation makes a number of operands that are not both numbers: a quotient by an
infinity; a power to the exponent zero or of the base one; a power of an infinity to a negative
exponent; and a power to an infinity that does not grow. -/
def BinaryOp.Absorbs : BinaryOp → Float → Float → Prop
  | .add, _, _ => False
  | .subtract, _, _ => False
  | .multiply, _, _ => False
  | .divide, a, b => a.isFinite = true ∧ b.isInf = true
  | .power, a, b =>
    a.isFinite = false ∧ ((b == 0) = true ∨ a.isInf = true ∧ b < 0) ∨
      b.isFinite = false ∧ ((a == 1) = true ∨
        a.isFinite = true ∧ b.isInf = true ∧ ((a.abs == 1) = true ∨ ¬ (0 < b ↔ 1 < a.abs)))

def GivesNumber (r : Except Fault Float) : Prop := ∃ v, r = .ok v ∧ v.isFinite = true

@[simp] private theorem givesNumber_ok {v : Float} : GivesNumber (.ok v) ↔ v.isFinite = true := by
  simp [GivesNumber]

@[simp] private theorem not_givesNumber_error (why : Fault) : ¬ GivesNumber (.error why) := by
  simp [GivesNumber]

private theorem isFinite_zero : (0 : Float).isFinite = true := by decide

@[simp] private theorem isFinite_one : (1 : Float).isFinite = true := by decide

private theorem isFinite_of_beq_zero {a : Float} (h : (a == 0) = true) : a.isFinite = true :=
  (isFinite_eq_of_beq h).trans isFinite_zero

private theorem isFinite_of_beq_one {a : Float} (h : (a == 1) = true) : a.isFinite = true :=
  (isFinite_eq_of_beq h).trans isFinite_one

private theorem givesNumber_divide_iff {a b : Float}
    (h : a.isFinite = false ∨ b.isFinite = false) :
    GivesNumber (Arithmetic.divide a b) ↔ a.isFinite = true ∧ b.isInf = true := by
  unfold Arithmetic.divide
  by_cases hb : (b == 0) = true
  · simp [hb, not_givesNumber_error, not_isInf_of_isFinite (isFinite_of_beq_zero hb)]
  · rw [if_neg hb, givesNumber_ok]
    cases ha : a.isFinite with
    | false => simp [not_isFinite_div (.inl ha)]
    | true =>
      rcases isInf_or_isNaN (h.resolve_left (by simp [ha])) with infinite | none
      · simp [isFinite_div ha infinite, infinite]
      · simp [not_isFinite_div (.inr none), not_isInf_of_isNaN none]

private theorem isFinite_signedLimit (odd : Bool) (a : Float) :
    (Arithmetic.signedLimit odd a).isFinite = a.isFinite := by
  cases odd with
  | true => rfl
  | false => exact isFinite_abs a

private theorem power_unit {a b : Float} (h : (b == 0) = true ∨ (a == 1) = true) :
    Arithmetic.power a b = .ok 1 :=
  if_pos (Bool.or_eq_true_iff.mpr h)

section Power

variable {a b : Float} (zero : (b == 0) = false) (one : (a == 1) = false)

include zero one

private theorem not_power_unit : ¬ (b == 0 || a == 1) = true := by
  rw [zero, one]
  exact Bool.false_ne_true

private theorem power_of_isNaN (h : a.isNaN = true) : Arithmetic.power a b = .ok a := by
  unfold Arithmetic.power
  dsimp only
  rw [if_neg (not_power_unit zero one), if_pos h]

private theorem power_to_isNaN (ha : a.isNaN = false) (hb : b.isNaN = true) :
    Arithmetic.power a b = .ok b := by
  unfold Arithmetic.power
  dsimp only
  rw [if_neg (not_power_unit zero one), if_neg (Bool.eq_false_iff.mp ha), if_pos hb]

private theorem power_to_isInf (ha : a.isNaN = false) (hb : b.isInf = true) :
    Arithmetic.power a b = .ok (if a.abs == 1 then 1
      else if decide (0 < b) == decide (1 < a.abs) then b.abs else 0) := by
  unfold Arithmetic.power
  dsimp only
  rw [if_neg (not_power_unit zero one), if_neg (Bool.eq_false_iff.mp ha),
    if_neg (Bool.eq_false_iff.mp (not_isNaN_of_isInf hb)), if_pos hb]

private theorem power_of_isInf (ha : a.isInf = true) (hb : b.isFinite = true) :
    Arithmetic.power a b = .ok (if 0 < b then Arithmetic.signedLimit (ofFloat b).isOdd a
      else Arithmetic.signedLimit (ofFloat b).isOdd (1 / a)) := by
  unfold Arithmetic.power
  dsimp only
  rw [if_neg (not_power_unit zero one), if_neg (Bool.eq_false_iff.mp (not_isNaN_of_isInf ha)),
    if_neg (Bool.eq_false_iff.mp (not_isNaN_of_isFinite hb)),
    if_neg (Bool.eq_false_iff.mp (not_isInf_of_isFinite hb)), if_pos ha]

end Power

private theorem givesNumber_power_infinite {a b : Float} (ha : a.isNaN = false)
    (hb : b.isInf = true) (one : (a == 1) = false) :
    GivesNumber (Arithmetic.power a b) ↔ (a.abs == 1) = true ∨ ¬ (0 < b ↔ 1 < a.abs) := by
  have exponent := not_isFinite_of_isInf hb
  have zero : (b == 0) = false := beq_eq_false_of_isFinite exponent isFinite_zero
  rw [power_to_isInf zero one ha hb, givesNumber_ok]
  by_cases unit : (a.abs == 1) = true
  · simp [unit, isFinite_one]
  · by_cases grows : 0 < b ↔ 1 < a.abs
    · simp [unit, grows, isFinite_abs, exponent]
    · have apart : (decide (0 < b) == decide (1 < a.abs)) = false := by
        rwa [beq_eq_false_iff_ne, ne_eq, decide_eq_decide]
      simp [unit, apart, grows, isFinite_zero]

private theorem givesNumber_power_of_infinite {a b : Float} (ha : a.isInf = true)
    (hb : b.isFinite = true) (zero : (b == 0) = false) :
    GivesNumber (Arithmetic.power a b) ↔ b < 0 := by
  have base := not_isFinite_of_isInf ha
  have one : (a == 1) = false := beq_eq_false_of_isFinite base isFinite_one
  rw [power_of_isInf zero one ha hb, givesNumber_ok, lt_zero_iff (not_isNaN_of_isFinite hb) zero]
  by_cases grows : 0 < b
  · simp [grows, isFinite_signedLimit, base]
  · simp [grows, isFinite_signedLimit, isFinite_div isFinite_one ha]

private theorem givesNumber_power_iff {a b : Float}
    (h : a.isFinite = false ∨ b.isFinite = false) :
    GivesNumber (Arithmetic.power a b) ↔ BinaryOp.power.Absorbs a b := by
  unfold BinaryOp.Absorbs
  by_cases hb : (b == 0) = true
  · have base := h.resolve_right (by simp [isFinite_of_beq_zero hb])
    simp [power_unit (.inl hb), hb, base]
  by_cases ha : (a == 1) = true
  · have exponent := h.resolve_left (by simp [isFinite_of_beq_one ha])
    simp [power_unit (.inr ha), ha, exponent]
  have zero := Bool.eq_false_iff.mpr hb
  have one := Bool.eq_false_iff.mpr ha
  by_cases none : a.isNaN = true
  · rw [power_of_isNaN zero one none, givesNumber_ok]
    simp [ha, hb, not_isFinite_of_isNaN none, not_isInf_of_isNaN none]
  have number := Bool.eq_false_iff.mpr none
  by_cases none' : b.isNaN = true
  · have negative := not_lt_zero_of_isNaN none'
    rw [power_to_isNaN zero one number none', givesNumber_ok]
    simp [ha, hb, not_isFinite_of_isNaN none', not_isInf_of_isNaN none', negative]
  cases exponent : b.isFinite with
  | true =>
    have base := h.resolve_right (by simp [exponent])
    have infinite := (isInf_or_isNaN base).resolve_right none
    simp [givesNumber_power_of_infinite infinite exponent zero, base, infinite, zero, exponent]
  | false =>
    have infinite := (isInf_or_isNaN exponent).resolve_right none'
    rw [givesNumber_power_infinite number infinite one]
    cases base : a.isFinite with
    | true => simp [one, infinite, base, exponent]
    | false =>
      have large := (isInf_or_isNaN base).resolve_right none
      have unit : (a.abs == 1) = false :=
        beq_eq_false_of_isFinite ((isFinite_abs a).trans base) isFinite_one
      simp [unit, one, zero, base, large, exponent, one_lt_abs large,
        lt_zero_iff (not_isNaN_of_isInf infinite) zero]

theorem BinaryOp.absorbs_iff (op : BinaryOp) {a b : Float}
    (h : a.isFinite = false ∨ b.isFinite = false) :
    op.Absorbs a b ↔ GivesNumber (op.apply a b) := by
  cases op with
  | add => simp [Absorbs, apply, not_isFinite_add h]
  | subtract => simp [Absorbs, apply, not_isFinite_sub h]
  | multiply => simp [Absorbs, apply, not_isFinite_mul h]
  | divide => exact (givesNumber_divide_iff h).symm
  | power => exact (givesNumber_power_iff h).symm

private theorem BinaryOp.Absorbs.exists_not_isFinite {op : BinaryOp} {a b : Float}
    (h : op.Absorbs a b) : a.isFinite = false ∨ b.isFinite = false := by
  cases op with
  | add => exact h.elim
  | subtract => exact h.elim
  | multiply => exact h.elim
  | divide => exact .inr (not_isFinite_of_isInf h.2)
  | power => exact h.imp And.left And.left

theorem Builtin.not_isFinite_apply {f : Builtin} {a v : Float} (h : a.isFinite = false)
    (value : f.apply a = .ok v) : v.isFinite = false := by
  cases f with
  | sqrt =>
    rw [Builtin.apply] at value
    split at value
    · contradiction
    · obtain rfl := Except.ok.inj value
      exact not_isFinite_sqrt h

/-! ## Expressions -/

def Expr.parts : Expr → List Expr
  | .number _ | .var _ | .line _ => []
  | .binary _ left right => [left, right]
  | .neg operand | .percent operand => [operand]
  | .percentOf operand base => [operand, base]
  | .assign _ value => [value]
  | .call _ argument => [argument]

/-- An expression stands in another one, or is that expression. -/
inductive Expr.Within (part : Expr) : Expr → Prop
  | here : Within part part
  | inside {child whole : Expr} (h : Within part child) (mem : child ∈ whole.parts) :
      Within part whole

private theorem Expr.Within.part {whole e : Expr} (h : whole.Within e) {part : Expr}
    (mem : part ∈ whole.parts) : part.Within e := by
  induction h with
  | here => exact .inside .here mem
  | inside _ mem' ih => exact .inside ih mem'

/-- Whether an expression is an operation that makes a number of operands that are not both
numbers. -/
def Expr.Absorbs (s : Scope) : Expr → Prop
  | .binary op left right =>
    ∃ a b, left.value s = .ok a ∧ right.value s = .ok b ∧ op.Absorbs a b
  | _ => False

def Expr.NeverFinite (s : Scope) (e : Expr) : Prop :=
  ∀ v, e.value s = .ok v → v.isFinite = false

theorem Expr.NeverFinite.of_part {child whole : Expr} (h : child.NeverFinite s)
    (mem : child ∈ whole.parts) (keeps : ¬ whole.Absorbs s) : whole.NeverFinite s := by
  intro v value
  cases whole with
  | number | var | line => contradiction
  | binary op left right =>
    obtain ⟨a, ha, value⟩ := exists_ok_of_bind value
    obtain ⟨b, hb, value⟩ := exists_ok_of_bind value
    have operand : a.isFinite = false ∨ b.isFinite = false := by
      rcases List.mem_pair.mp mem with rfl | rfl
      · exact .inl (h a ha)
      · exact .inr (h b hb)
    refine Bool.eq_false_iff.mpr fun finite => keeps ⟨a, b, ha, hb, ?_⟩
    exact (op.absorbs_iff operand).mpr ⟨v, value, finite⟩
  | neg operand =>
    obtain rfl := List.mem_singleton.mp mem
    obtain ⟨a, ha, value⟩ := exists_ok_of_bind value
    obtain rfl := Except.ok.inj value
    exact (isFinite_neg a).trans (h a ha)
  | percent operand =>
    obtain rfl := List.mem_singleton.mp mem
    obtain ⟨a, ha, value⟩ := exists_ok_of_bind value
    obtain rfl := Except.ok.inj value
    exact not_isFinite_div (.inl (h a ha))
  | percentOf operand base =>
    obtain ⟨a, ha, value⟩ := exists_ok_of_bind value
    obtain ⟨b, hb, value⟩ := exists_ok_of_bind value
    obtain rfl := Except.ok.inj value
    rcases List.mem_pair.mp mem with rfl | rfl
    · exact not_isFinite_mul (.inr (not_isFinite_div (.inl (h a ha))))
    · exact not_isFinite_mul (.inl (h b hb))
  | assign name operand =>
    obtain rfl := List.mem_singleton.mp mem
    exact h v value
  | call function argument =>
    obtain rfl := List.mem_singleton.mp mem
    rw [Expr.value] at value
    split at value
    · contradiction
    · obtain ⟨a, ha, value⟩ := exists_ok_of_bind value
      exact Builtin.not_isFinite_apply (h a ha) value

/-- What is no number makes none of all that stands around it, unless something absorbs it. -/
theorem Expr.Within.neverFinite {part e : Expr} (h : part.Within e) (none : part.NeverFinite s)
    (keeps : ∀ whole, part.Within whole → whole.Within e → ¬ whole.Absorbs s) :
    e.NeverFinite s := by
  induction h with
  | here => exact none
  | inside h mem ih =>
    have child := ih fun whole inner outer => keeps whole inner (.inside outer mem)
    exact child.of_part mem (keeps _ (.inside h mem) .here)

private theorem Expr.Absorbs.exists_part {whole : Expr} (h : whole.Absorbs s) :
    ∃ part ∈ whole.parts, ∃ v, part.value s = .ok v ∧ v.isFinite = false := by
  cases whole with
  | binary op left right =>
    obtain ⟨a, b, ha, hb, absorbs⟩ := h
    rcases absorbs.exists_not_isFinite with none | none
    · exact ⟨left, List.mem_cons_self, a, ha, none⟩
    · exact ⟨right, List.mem_cons_of_mem _ List.mem_cons_self, b, hb, none⟩
  | _ => exact h.elim

/-! ## Lines -/

private theorem DerivesLine.fails {xs : List Lexeme} {e : Expr} (line : DerivesLine xs e)
    (none : e.NeverFinite s) : ∃ why, e.evaluate s = (.failure why, s) := by
  have steps := line.yields s heightLimit
  unfold Expr.evaluate
  generalize e.eval heightLimit s = r at steps
  cases r with
  | error why => exact ⟨why, rfl⟩
  | ok r =>
    obtain ⟨v, after⟩ := r
    have value := none v steps.of_ok.1
    exact ⟨.ofValue v, by simp [value]⟩

/-- A line in which something is worked out to no number fails and changes nothing, unless an
operation around it absorbs that. So a line with a value has such a thing in it exactly if one of
its operations absorbs. -/
theorem evaluateText_overflow {text : String} {e : Expr} (parsed : parseText text = .tree e)
    (s : Scope) :
    (∀ (part : Expr) (v : Float), part.Within e → part.value s = .ok v → v.isFinite = false →
        (∀ whole, part.Within whole → whole.Within e → ¬ whole.Absorbs s) →
        ∃ why, evaluateText text s = (.failure why, s)) ∧
      ∀ v, (evaluateText text s).1 = .value v →
        ((∃ (part : Expr) (w : Float),
            part.Within e ∧ part.value s = .ok w ∧ w.isFinite = false) ↔
          ∃ whole : Expr, whole.Within e ∧ whole.Absorbs s) := by
  have fails {part : Expr} {v : Float} (within : part.Within e) (value : part.value s = .ok v)
      (none : v.isFinite = false)
      (keeps : ∀ whole, part.Within whole → whole.Within e → ¬ whole.Absorbs s) :
      ∃ why, evaluateText text s = (.failure why, s) := by
    have never : part.NeverFinite s := by
      intro w hw
      obtain rfl := Except.ok.inj (value.symm.trans hw)
      exact none
    rw [evaluateText, parsed, Parse.evaluate]
    exact (derives_of_parseText parsed).fails (within.neverFinite never keeps)
  refine ⟨fun part v within value none keeps => fails within value none keeps, ?_⟩
  intro v result
  constructor
  · rintro ⟨part, w, within, value, none⟩
    by_contra keeps
    obtain ⟨why, failed⟩ := fails within value none fun whole _ inside absorbs =>
      keeps ⟨whole, inside, absorbs⟩
    rw [failed] at result
    contradiction
  · rintro ⟨whole, within, absorbs⟩
    obtain ⟨part, mem, w, value, none⟩ := absorbs.exists_part
    exact ⟨part, w, within.part mem, value, none⟩

theorem evaluateText_overflow_sum :
    let s : Scope := ⟨[("x", Float.ofBits 0x7fe0000000000000)], []⟩
    let sum : Expr := .binary .add (.var "x") (.var "x")
    parseText "1 - ($x + $x)" = .tree (.binary .subtract (.number 1) sum) ∧
      sum.value s = .ok (Float.ofBits 0x7ff0000000000000) ∧
      ∃ why, evaluateText "1 - ($x + $x)" s = (.failure why, s) := by
  intro s sum
  have parsed : parseText "1 - ($x + $x)" = .tree (.binary .subtract (.number 1) sum) := by
    decide +kernel
  have value : sum.value s = .ok (Float.ofBits 0x7ff0000000000000) := by decide +kernel
  have within : sum.Within (.binary .subtract (.number 1) sum) :=
    .inside .here (List.mem_cons_of_mem _ List.mem_cons_self)
  have leaf {e whole : Expr} (none : e.parts = []) (h : whole.Within e) : ¬ whole.Absorbs s := by
    cases h with
    | here => cases e <;> first | exact id | contradiction
    | inside _ mem => rw [none] at mem; contradiction
  have plain : ∀ whole : Expr, whole.Within sum → ¬ whole.Absorbs s := by
    intro whole h
    cases h with
    | here => rintro ⟨_, _, _, _, absorbs⟩; exact absorbs
    | inside h mem => rcases List.mem_pair.mp mem with rfl | rfl <;> exact leaf rfl h
  refine ⟨parsed, value, (evaluateText_overflow parsed s).1 sum _ within value (by decide) ?_⟩
  intro whole _ h
  cases h with
  | here => rintro ⟨_, _, _, _, absorbs⟩; exact absorbs
  | inside h mem =>
    rcases List.mem_pair.mp mem with rfl | rfl
    · exact leaf rfl h
    · exact plain whole h

theorem evaluateText_overflow_absorbed :
    let s : Scope := ⟨[("x", Float.ofBits 0x7fe0000000000000)], []⟩
    let sum : Expr := .binary .add (.var "x") (.var "x")
    (∀ b ∈ s.vars, b.2.isFinite = true) ∧
      parseText "1/($x+$x)" = .tree (.binary .divide (.number 1) sum) ∧
      sum.Within (.binary .divide (.number 1) sum) ∧
      sum.value s = .ok (Float.ofBits 0x7ff0000000000000) ∧
      (Float.ofBits 0x7ff0000000000000).isFinite = false ∧
      evaluateText "1/($x+$x)" s = (.value 0, s) := by
  intro s sum
  have within : sum.Within (.binary .divide (.number 1) sum) :=
    .inside .here (List.mem_cons_of_mem _ List.mem_cons_self)
  have overflows : (Float.ofBits 0x7ff0000000000000).isFinite = false := by decide
  exact ⟨by decide +kernel, by decide +kernel, within, by decide +kernel, overflows,
    by decide +kernel⟩

end Worksheet

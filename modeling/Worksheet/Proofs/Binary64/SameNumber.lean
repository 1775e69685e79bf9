import Worksheet.Arithmetic
import Worksheet.Proofs.Binary64.Status
import Worksheet.Proofs.Lockstep
import Worksheet.Proofs.Redisplay

/-!
Doubles that stand for one number. A double stands for the number of another if it is the same one
or both are zeros, and no operation of a worksheet tells two such doubles apart: the results stand
for one number again, or the faults are the same (`BinaryOp.apply_sameNumber`,
`Builtin.apply_sameNumber`), and one text is shown for both (`showNumber_sameNumber`).
-/

set_option autoImplicit false
set_option relaxedAutoImplicit false

namespace Worksheet

open Float.Model (UnpackedFloat)
open Float.Model.UnpackedFloat (Sign)

namespace Binary64

/-- Doubles that are the same, or two zeros. -/
inductive SameNumber : Float → Float → Prop
  | refl (x : Float) : SameNumber x x
  | zeros {x y : Float} (hx : (x == 0) = true) (hy : (y == 0) = true) : SameNumber x y

/-! ## In parts -/

inductive SameParts : UnpackedFloat → UnpackedFloat → Prop
  | refl (u : UnpackedFloat) : SameParts u u
  | zeros (s t : Sign) : SameParts (.zero s) (.zero t)

namespace SameParts

variable {spec : Float.Model.Format} {u u' v v' w : UnpackedFloat}

private theorem trans (h : SameParts u v) (h' : SameParts v w) : SameParts u w := by
  cases h with
  | refl u => exact h'
  | zeros s t =>
    cases h' with
    | refl => exact .zeros s t
    | zeros _ t' => exact .zeros s t'

private theorem map₂ {f : UnpackedFloat → UnpackedFloat → UnpackedFloat}
    (left : ∀ s t v, SameParts (f (.zero s) v) (f (.zero t) v))
    (right : ∀ u s t, SameParts (f u (.zero s)) (f u (.zero t)))
    (hu : SameParts u u') (hv : SameParts v v') : SameParts (f u v) (f u' v') := by
  have first : SameParts (f u v) (f u' v) := by
    cases hu with
    | refl u => exact .refl _
    | zeros s t => exact left s t v
  refine first.trans ?_
  cases hv with
  | refl v => exact .refl _
  | zeros s t => exact right u' s t

private theorem add : SameParts u u' → SameParts v v' →
    SameParts (UnpackedFloat.add spec u v) (UnpackedFloat.add spec u' v') := by
  refine map₂ (fun s t v => ?_) fun u s t => ?_
  · cases v with
    | zero r => cases r <;> cases s <;> cases t <;> constructor
    | _ => constructor
  · cases u with
    | zero r => cases r <;> cases s <;> cases t <;> constructor
    | _ => constructor

private theorem sub : SameParts u u' → SameParts v v' →
    SameParts (UnpackedFloat.sub spec u v) (UnpackedFloat.sub spec u' v') := by
  refine map₂ (fun s t v => ?_) fun u s t => ?_
  · cases v with
    | zero r => cases r <;> cases s <;> cases t <;> constructor
    | _ => constructor
  · cases u with
    | zero r => cases r <;> cases s <;> cases t <;> constructor
    | _ => constructor

private theorem mul : SameParts u u' → SameParts v v' →
    SameParts (UnpackedFloat.mul spec u v) (UnpackedFloat.mul spec u' v') := by
  refine map₂ (fun s t v => ?_) fun u s t => ?_
  · cases v <;> constructor
  · cases u <;> constructor

private theorem div (h : SameParts u u') (v : UnpackedFloat) :
    SameParts (UnpackedFloat.div spec u v) (UnpackedFloat.div spec u' v) := by
  cases h with
  | refl u => exact .refl _
  | zeros s t => cases v <;> constructor

private theorem neg (h : SameParts u u') : SameParts u.neg u'.neg := by
  cases h <;> constructor

private theorem abs (h : SameParts u u') : SameParts u.abs u'.abs := by
  cases h <;> constructor

private theorem sqrt (h : SameParts u u') :
    SameParts (UnpackedFloat.sqrt spec u) (UnpackedFloat.sqrt spec u') := by
  cases h <;> constructor

private theorem isNaN (h : SameParts u v) : v.isNaN = u.isNaN := by
  cases h <;> rfl

private theorem isInf (h : SameParts u v) : v.isInf = u.isInf := by
  cases h <;> rfl

private theorem isFinite (h : SameParts u v) : v.isFinite = u.isFinite := by
  cases h <;> rfl

private theorem compare_zero (s t : Sign) (v : UnpackedFloat) :
    (UnpackedFloat.zero s).compare v = (UnpackedFloat.zero t).compare v ∧
      v.compare (.zero s) = v.compare (.zero t) := by
  cases v with
  | infinity r => cases r <;> exact ⟨rfl, rfl⟩
  | finite r m e positive => cases r <;> exact ⟨rfl, rfl⟩
  | _ => exact ⟨rfl, rfl⟩

private theorem compare (hu : SameParts u u') (hv : SameParts v v') :
    u.compare v = u'.compare v' := by
  have first : u.compare v = u'.compare v := by
    cases hu with
    | refl u => rfl
    | zeros s t => exact (compare_zero s t v).1
  refine first.trans ?_
  cases hv with
  | refl v => rfl
  | zeros s t => exact (compare_zero s t u').2

private theorem of_compare (h : u.compare v = some .eq) : SameParts u v := by
  cases u with
  | notANumber => contradiction
  | infinity s =>
    cases v with
    | infinity t => cases s <;> cases t <;> first | exact .refl _ | contradiction
    | _ => cases s <;> simp [UnpackedFloat.compare] at h
  | zero s =>
    cases v with
    | zero t => exact .zeros s t
    | infinity t => cases t <;> simp [UnpackedFloat.compare] at h
    | finite t m e positive => cases t <;> simp [UnpackedFloat.compare] at h
    | notANumber => contradiction
  | finite s m e positive =>
    cases v with
    | finite t m' e' positive' =>
      obtain rfl : s = t := by
        cases s <;> cases t <;> first | rfl | simp [UnpackedFloat.compare] at h
      have sizes : e = e' ∧ m = m' := by
        cases s <;> simpa only [UnpackedFloat.compare, Option.some.injEq, Ordering.swap_eq_eq,
          Ordering.then_eq_eq, Std.LawfulEqOrd.compare_eq_iff_eq] using h
      obtain ⟨rfl, rfl⟩ := sizes
      exact .refl _
    | infinity t => cases t <;> simp [UnpackedFloat.compare] at h
    | zero t => cases s <;> simp [UnpackedFloat.compare] at h
    | notANumber => contradiction

private theorem compare_eq (h : SameParts u v) (number : u ≠ .notANumber) :
    u.compare v = some .eq := by
  cases h with
  | zeros s t => rfl
  | refl u =>
    cases u with
    | notANumber => contradiction
    | zero s => rfl
    | infinity s => cases s <;> rfl
    | finite s m e positive => cases s <;> simp [UnpackedFloat.compare]

end SameParts

/-! ## Doubles -/

variable {x x' y y' : Float}

private theorem beq_zero_iff : (x == 0) = true ↔ ∃ s, x.toModel.unpack = .zero s := by
  have zero : (0 : Float).toModel.unpack = .zero .positive := rfl
  rw [beq_iff, zero]
  constructor
  · intro h
    generalize x.toModel.unpack = u at h
    have parts := SameParts.of_compare h
    cases parts with
    | refl => exact ⟨_, rfl⟩
    | zeros s t => exact ⟨s, rfl⟩
  · rintro ⟨s, h⟩
    rw [h]
    rfl

namespace SameNumber

private theorem parts (h : SameNumber x y) : SameParts x.toModel.unpack y.toModel.unpack := by
  cases h with
  | refl => exact .refl _
  | zeros hx hy =>
    obtain ⟨s, hx⟩ := beq_zero_iff.mp hx
    obtain ⟨t, hy⟩ := beq_zero_iff.mp hy
    rw [hx, hy]
    exact .zeros s t

theorem of_beq (h : (x == y) = true) : SameNumber x y := by
  have compared := beq_iff.mp h
  have parts := SameParts.of_compare compared
  generalize hu : x.toModel.unpack = u, hv : y.toModel.unpack = v at parts compared
  cases parts with
  | refl u =>
    -- Doubles are known by their parts but for `NaN`, which is not equal to itself.
    have number : x.toModel.unpack ≠ .notANumber := by
      rw [hu]
      rintro rfl
      contradiction
    obtain rfl := eq_of_unpack number (hu.trans hv.symm)
    exact .refl x
  | zeros s t => exact .zeros (beq_zero_iff.mpr ⟨s, hu⟩) (beq_zero_iff.mpr ⟨t, hv⟩)

private theorem pack {u v : UnpackedFloat} (h : SameParts u v) :
    SameNumber (.ofModel (Float.Model.pack u)) (.ofModel (Float.Model.pack v)) := by
  cases h with
  | refl u => exact .refl _
  | zeros s t =>
    have zero (r : Sign) : (Float.ofModel (Float.Model.pack (.zero r)) == 0) = true := by
      cases r <;> rfl
    exact .zeros (zero s) (zero t)

private theorem add (hx : SameNumber x x') (hy : SameNumber y y') : SameNumber (x + y) (x' + y') :=
  pack (hx.parts.add hy.parts)

private theorem sub (hx : SameNumber x x') (hy : SameNumber y y') : SameNumber (x - y) (x' - y') :=
  pack (hx.parts.sub hy.parts)

private theorem mul (hx : SameNumber x x') (hy : SameNumber y y') : SameNumber (x * y) (x' * y') :=
  pack (hx.parts.mul hy.parts)

theorem div (hx : SameNumber x x') (y : Float) : SameNumber (x / y) (x' / y) :=
  pack (hx.parts.div _)

theorem neg (hx : SameNumber x x') : SameNumber (-x) (-x') := pack hx.parts.neg

private theorem abs (hx : SameNumber x x') : SameNumber x.abs x'.abs := pack hx.parts.abs

private theorem sqrt (hx : SameNumber x x') : SameNumber x.sqrt x'.sqrt := pack hx.parts.sqrt

private theorem beq_congr (hx : SameNumber x x') (hy : SameNumber y y') :
    (x' == y') = (x == y) := by
  rw [Bool.eq_iff_iff, beq_iff, beq_iff, hx.parts.compare hy.parts]

private theorem lt_congr (hx : SameNumber x x') (hy : SameNumber y y') : x' < y' ↔ x < y := by
  rw [lt_iff, lt_iff, hx.parts.compare hy.parts]

private theorem isNaN (h : SameNumber x y) : y.isNaN = x.isNaN := h.parts.isNaN

private theorem isInf (h : SameNumber x y) : y.isInf = x.isInf := h.parts.isInf

theorem isFinite (h : SameNumber x y) : y.isFinite = x.isFinite := h.parts.isFinite

theorem beq (h : SameNumber x y) (number : x.isFinite = true) : (x == y) = true := by
  refine beq_iff.mpr (h.parts.compare_eq fun none => ?_)
  rw [Float.isFinite, Float.Model.isFinite, none] at number
  contradiction

end SameNumber

private theorem ofFloat_of_zero (h : (x == 0) = true) :
    ∃ negative, ofFloat x = finite negative 0 leastExponent := by
  obtain ⟨s, h⟩ := beq_zero_iff.mp h
  exact ⟨isMinus s, by rw [ofFloat_eq, h, ofUnpacked]⟩

end Binary64

open Binary64

variable {a a' b b' : Float}

/-! ## Operations -/

namespace Arithmetic

private theorem divide_sameNumber (ha : SameNumber a a') (hb : SameNumber b b') :
    Lockstep Eq SameNumber (divide a b) (divide a' b') := by
  have zero := SameNumber.refl 0
  rw [divide, divide, hb.beq_congr zero, ha.beq_congr zero]
  simp only [ha.lt_congr zero]
  cases hb with
  | refl =>
    split
    · exact .error rfl
    · exact .ok (ha.div b)
  | zeros hb hb' =>
    rw [if_pos hb, if_pos hb]
    exact .error rfl

private theorem signedLimit_sameNumber (ha : SameNumber a a') (odd : Bool) :
    SameNumber (signedLimit odd a) (signedLimit odd a') := by
  cases odd
  · exact ha.abs
  · exact ha

private theorem power_zeros (ha : (a == 0) = true) (ha' : (a' == 0) = true) (b : Float) :
    Lockstep Eq SameNumber (power a b) (power a' b) := by
  have same := SameNumber.zeros ha ha'
  have finite : a.isInf = false := not_isInf_of_isFinite (isFinite_eq_of_beq ha)
  have one := same.beq_congr (.refl 1)
  have size := same.abs.beq_congr (.refl 1)
  have more := (SameNumber.refl 1).lt_congr same.abs
  simp only [power, one, size, more, same.isNaN, same.isInf, finite, ha, ha']
  split
  · exact .ok (.refl 1)
  · split
    · exact .ok same
    · split
      · exact .ok (.refl b)
      · split
        · exact .ok (.refl _)
        · simp only [Bool.false_eq_true, if_false, if_true]
          split
          · exact .ok (signedLimit_sameNumber same _)
          · exact .error rfl

private theorem power_sameNumber (ha : SameNumber a a') (hb : SameNumber b b') :
    Lockstep Eq SameNumber (power a b) (power a' b') := by
  cases hb with
  | zeros hb hb' =>
    simp only [power, hb, hb', Bool.true_or, if_true]
    exact .ok (.refl 1)
  | refl =>
    cases ha with
    | refl => exact .refl (fun _ => rfl) .refl _
    | zeros ha ha' => exact power_zeros ha ha' b

end Arithmetic

theorem BinaryOp.apply_sameNumber (op : BinaryOp) (ha : SameNumber a a') (hb : SameNumber b b') :
    Lockstep Eq SameNumber (op.apply a b) (op.apply a' b') := by
  cases op with
  | add => exact .ok (ha.add hb)
  | subtract => exact .ok (ha.sub hb)
  | multiply => exact .ok (ha.mul hb)
  | divide => exact Arithmetic.divide_sameNumber ha hb
  | power => exact Arithmetic.power_sameNumber ha hb

theorem Builtin.apply_sameNumber (f : Builtin) (ha : SameNumber a a') :
    Lockstep Eq SameNumber (f.apply a) (f.apply a') := by
  cases f with
  | sqrt =>
    simp only [Builtin.apply, ha.lt_congr (.refl 0)]
    split
    · exact .error rfl
    · exact .ok ha.sqrt

/-! ## Texts -/

theorem Fault.ofValue_sameNumber (ha : SameNumber a a') : Fault.ofValue a' = Fault.ofValue a := by
  simp only [Fault.ofValue, ha.isNaN, ha.lt_congr (.refl 0)]

theorem showNumber_sameNumber (ha : SameNumber a a') : showNumber a' = showNumber a := by
  cases ha with
  | refl => rfl
  | zeros h h' =>
    obtain ⟨negative, h⟩ := ofFloat_of_zero h
    obtain ⟨negative', h'⟩ := ofFloat_of_zero h'
    rw [showNumber_eq h, showNumber_eq h']
    simp

end Worksheet

import Worksheet.Proofs.Binary64.Bits

/-!
Doubles that are not finite, under the operations. Sums, differences and products keep them, and so
do a negation, a division by a finite number and a square root; only what is divided by an infinity
becomes zero. Comparisons tell finite doubles from others, and doubles of one size are equal
(`beq_of_ofFloat`).
-/

set_option autoImplicit false
set_option relaxedAutoImplicit false

namespace Worksheet.Binary64

open Float.Model (UnpackedFloat)
open Float.Model.UnpackedFloat (Sign)

/-! ## In parts -/

section

variable {spec : Float.Model.Format} {u v : UnpackedFloat}

private theorem eq_of_not_isFinite (h : u.isFinite = false) :
    u = .notANumber ∨ ∃ s, u = .infinity s := by
  cases u with
  | notANumber => exact .inl rfl
  | infinity s => exact .inr ⟨s, rfl⟩
  | zero s => contradiction
  | finite s m e positive => contradiction

private theorem add_not_isFinite (h : u.isFinite = false ∨ v.isFinite = false) :
    (UnpackedFloat.add spec u v).isFinite = false := by
  rcases h with h | h <;> rcases eq_of_not_isFinite h with rfl | ⟨s, rfl⟩
  · rfl
  · cases v with
    | infinity t => cases s <;> cases t <;> rfl
    | _ => rfl
  · cases u <;> rfl
  · cases u with
    | infinity t => cases s <;> cases t <;> rfl
    | _ => rfl

private theorem sub_not_isFinite (h : u.isFinite = false ∨ v.isFinite = false) :
    (UnpackedFloat.sub spec u v).isFinite = false := by
  rcases h with h | h <;> rcases eq_of_not_isFinite h with rfl | ⟨s, rfl⟩
  · rfl
  · cases v with
    | infinity t => cases s <;> cases t <;> rfl
    | _ => rfl
  · cases u <;> rfl
  · cases u with
    | infinity t => cases s <;> cases t <;> rfl
    | _ => rfl

private theorem mul_not_isFinite (h : u.isFinite = false ∨ v.isFinite = false) :
    (UnpackedFloat.mul spec u v).isFinite = false := by
  rcases h with h | h <;> rcases eq_of_not_isFinite h with rfl | ⟨s, rfl⟩
  · rfl
  · cases v <;> rfl
  · cases u <;> rfl
  · cases u <;> rfl

private theorem div_not_isFinite (h : u.isFinite = false ∨ v.isNaN = true) :
    (UnpackedFloat.div spec u v).isFinite = false := by
  rcases h with h | h
  · rcases eq_of_not_isFinite h with rfl | ⟨s, rfl⟩
    · rfl
    · cases v <;> rfl
  · cases v with
    | notANumber => cases u <;> rfl
    | _ => contradiction

private theorem isFinite_eq_of_compare (h : u.compare v = some .eq) : u.isFinite = v.isFinite := by
  cases u with
  | notANumber => contradiction
  | infinity s =>
    cases v with
    | infinity t => rfl
    | notANumber => rfl
    | zero t => cases s <;> simp [UnpackedFloat.compare] at h
    | finite t m e positive => cases s <;> simp [UnpackedFloat.compare] at h
  | _ =>
    cases v with
    | infinity t => cases t <;> simp [UnpackedFloat.compare] at h
    | notANumber => contradiction
    | _ => rfl

private theorem sqrt_not_isFinite (h : u.isFinite = false) :
    (UnpackedFloat.sqrt spec u).isFinite = false := by
  rcases eq_of_not_isFinite h with rfl | ⟨s, rfl⟩
  · rfl
  · cases s <;> rfl

end

/-! ## Doubles -/

variable {x y : Float}

private theorem not_isFinite_pack {u : UnpackedFloat} (h : u.isFinite = false) :
    (Float.ofModel (Float.Model.pack u)).isFinite = false := by
  have kept : (Float.Model.pack u).unpack = u := by
    rcases eq_of_not_isFinite h with rfl | ⟨s, rfl⟩ <;> exact unpack_pack trivial
  rw [Float.isFinite, Float.Model.isFinite, kept, h]

theorem not_isFinite_add (h : x.isFinite = false ∨ y.isFinite = false) :
    (x + y).isFinite = false :=
  not_isFinite_pack (add_not_isFinite h)

theorem not_isFinite_sub (h : x.isFinite = false ∨ y.isFinite = false) :
    (x - y).isFinite = false :=
  not_isFinite_pack (sub_not_isFinite h)

theorem not_isFinite_mul (h : x.isFinite = false ∨ y.isFinite = false) :
    (x * y).isFinite = false :=
  not_isFinite_pack (mul_not_isFinite h)

theorem not_isFinite_div (h : x.isFinite = false ∨ y.isNaN = true) : (x / y).isFinite = false :=
  not_isFinite_pack (div_not_isFinite h)

theorem not_isFinite_sqrt (h : x.isFinite = false) : x.sqrt.isFinite = false :=
  not_isFinite_pack (sqrt_not_isFinite h)

theorem isFinite_neg (x : Float) : (-x).isFinite = x.isFinite := by
  rw [Float.isFinite, Float.isFinite, Float.Model.isFinite, Float.Model.isFinite, unpack_neg]
  cases x.toModel.unpack <;> rfl

theorem isFinite_abs (x : Float) : x.abs.isFinite = x.isFinite := by
  rw [Float.isFinite, Float.isFinite, Float.Model.isFinite, Float.Model.isFinite, unpack_abs]
  cases x.toModel.unpack <;> rfl

private theorem unpack_of_isInf (h : x.isInf = true) : ∃ s, x.toModel.unpack = .infinity s := by
  rw [Float.isInf, Float.Model.isInf] at h
  cases hu : x.toModel.unpack with
  | infinity s => exact ⟨s, rfl⟩
  | _ => rw [hu] at h; contradiction

private theorem unpack_of_isNaN (h : x.isNaN = true) : x.toModel.unpack = .notANumber := by
  rw [Float.isNaN, Float.Model.isNaN] at h
  cases hu : x.toModel.unpack with
  | notANumber => rfl
  | _ => rw [hu] at h; contradiction

theorem isInf_or_isNaN (h : x.isFinite = false) : x.isInf = true ∨ x.isNaN = true := by
  rw [Float.isFinite, Float.Model.isFinite] at h
  rcases eq_of_not_isFinite h with h | ⟨s, h⟩
  · exact .inr (by rw [Float.isNaN, Float.Model.isNaN, h]; rfl)
  · exact .inl (by rw [Float.isInf, Float.Model.isInf, h]; rfl)

theorem not_isFinite_of_isInf (h : x.isInf = true) : x.isFinite = false := by
  obtain ⟨s, h⟩ := unpack_of_isInf h
  rw [Float.isFinite, Float.Model.isFinite, h]
  rfl

theorem not_isFinite_of_isNaN (h : x.isNaN = true) : x.isFinite = false := by
  rw [Float.isFinite, Float.Model.isFinite, unpack_of_isNaN h]
  rfl

theorem not_isInf_of_isFinite (h : x.isFinite = true) : x.isInf = false :=
  Bool.eq_false_iff.mpr fun infinite => Bool.eq_false_iff.mp (not_isFinite_of_isInf infinite) h

theorem not_isNaN_of_isFinite (h : x.isFinite = true) : x.isNaN = false :=
  Bool.eq_false_iff.mpr fun none => Bool.eq_false_iff.mp (not_isFinite_of_isNaN none) h

theorem not_isNaN_of_isInf (h : x.isInf = true) : x.isNaN = false := by
  obtain ⟨s, h⟩ := unpack_of_isInf h
  rw [Float.isNaN, Float.Model.isNaN, h]
  rfl

theorem not_isInf_of_isNaN (h : x.isNaN = true) : x.isInf = false := by
  rw [Float.isInf, Float.Model.isInf, unpack_of_isNaN h]
  rfl

theorem isFinite_div (hx : x.isFinite = true) (hy : y.isInf = true) : (x / y).isFinite = true := by
  have zero : ∃ s, UnpackedFloat.div .binary64 x.toModel.unpack y.toModel.unpack = .zero s := by
    rw [Float.isFinite, Float.Model.isFinite] at hx
    obtain ⟨t, hy⟩ := unpack_of_isInf hy
    rw [hy]
    cases hu : x.toModel.unpack with
    | zero s => exact ⟨_, rfl⟩
    | finite s m e positive => exact ⟨_, rfl⟩
    | _ => rw [hu] at hx; contradiction
  obtain ⟨s, zero⟩ := zero
  have kept : (x / y).toModel.unpack = .zero s := by
    refine (congrArg (fun u => (Float.Model.pack u).unpack) zero).trans (unpack_pack ?_)
    exact ⟨by decide, by decide, by decide, .inl rfl⟩
  rw [Float.isFinite, Float.Model.isFinite, kept]
  rfl

/-! ## Comparisons -/

theorem lt_iff : x < y ↔ x.toModel.unpack.compare y.toModel.unpack = some .lt :=
  decide_eq_true_iff.trans beq_iff_eq

theorem beq_iff : (x == y) = true ↔ x.toModel.unpack.compare y.toModel.unpack = some .eq :=
  beq_iff_eq (a := x.toModel.unpack.compare y.toModel.unpack)

theorem isFinite_eq_of_beq (h : (x == y) = true) : x.isFinite = y.isFinite :=
  isFinite_eq_of_compare (beq_iff.mp h)

theorem beq_of_ofFloat {m : Nat} {q : Int} {negative negative' : Bool}
    (hx : ofFloat x = finite negative m q) (hy : ofFloat y = finite negative' m q)
    (signs : m ≠ 0 → negative = negative') : (x == y) = true := by
  rw [ofFloat_eq] at hx hy
  rw [beq_iff]
  rcases Nat.eq_zero_or_pos m with rfl | some
  · have zero {u : UnpackedFloat} {s : Bool} (h : ofUnpacked u = finite s 0 q) :
        ∃ t, u = .zero t := by
      cases u with
      | zero t => exact ⟨t, rfl⟩
      | finite t m e positive => simp [ofUnpacked, positive.ne'] at h
      | _ => contradiction
    obtain ⟨s, hx⟩ := zero hx
    obtain ⟨t, hy⟩ := zero hy
    rw [hx, hy]
    rfl
  · rw [ofUnpacked_injective (hx.trans (signs some.ne' ▸ hy.symm))]
    cases hv : y.toModel.unpack with
    | finite s m e positive => cases s <;> simp [UnpackedFloat.compare]
    | zero t => rfl
    | _ =>
      rw [hv] at hy
      contradiction

theorem beq_eq_false_of_isFinite (hx : x.isFinite = false) (hy : y.isFinite = true) :
    (x == y) = false := by
  refine Bool.eq_false_iff.mpr fun h => ?_
  rw [isFinite_eq_of_beq h, hy] at hx
  contradiction

theorem not_lt_zero_of_isNaN (h : x.isNaN = true) : ¬ x < 0 := by
  rw [lt_iff, unpack_of_isNaN h]
  exact nofun

theorem lt_zero_iff (number : x.isNaN = false) (nonzero : (x == 0) = false) :
    x < 0 ↔ ¬ 0 < x := by
  have zero : (0 : Float).toModel.unpack = .zero .positive := rfl
  rw [lt_iff, lt_iff, zero]
  cases hu : x.toModel.unpack with
  | notANumber =>
    rw [Float.isNaN, Float.Model.isNaN, hu] at number
    contradiction
  | zero s =>
    have equal : (x == 0) = true := by rw [beq_iff, hu, zero]; rfl
    rw [nonzero] at equal
    contradiction
  | infinity s => cases s <;> simp [UnpackedFloat.compare]
  | finite s m e positive => cases s <;> simp [UnpackedFloat.compare]

theorem one_lt_abs (h : x.isInf = true) : 1 < x.abs := by
  obtain ⟨s, h⟩ := unpack_of_isInf h
  rw [lt_iff, unpack_abs, h]
  rfl

end Worksheet.Binary64

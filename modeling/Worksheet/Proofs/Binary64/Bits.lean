import Mathlib
import Worksheet.Binary64

/-!
Doubles and what they stand for. The parts into which the floats of the core library are taken, and
from which they are packed again, stand for the values that `Binary64.ofFloat` reads off the bits
(`ofFloat_eq`, `unpack_pack`); so patterns can be read back, and signs turned.
-/

set_option autoImplicit false
set_option relaxedAutoImplicit false

namespace Worksheet.Binary64

open Float.Model (UnpackedFloat)
open Float.Model.UnpackedFloat (Sign unpackSign unpackExponent unpackMantissa packComponents)

def isMinus : Sign → Bool
  | .negative => true
  | .positive => false

def ofUnpacked : UnpackedFloat → Binary64
  | .notANumber => nan
  | .infinity s => infinite (isMinus s)
  | .zero s => finite (isMinus s) 0 leastExponent
  | .finite s m e _ => finite (isMinus s) m e

private theorem isMinus_injective {s t : Sign} (h : isMinus s = isMinus t) : s = t := by
  cases s <;> cases t <;> first | rfl | contradiction

theorem ofUnpacked_injective {u v : UnpackedFloat} (h : ofUnpacked u = ofUnpacked v) : u = v := by
  cases u <;> cases v <;> simp only [ofUnpacked, infinite.injEq, finite.injEq, reduceCtorEq] at h
  · rw [isMinus_injective h]
  · rfl
  · rw [isMinus_injective h.1]
  · next some => exact absurd h.2.1.symm some.ne'
  · next some _ => exact absurd h.2.1 some.ne'
  · obtain ⟨sign, rfl, rfl⟩ := h
    rw [isMinus_injective sign]

/-! ## Reading bits -/

private theorem isMinus_ofBitVec :
    ∀ b : BitVec 1, isMinus (.ofBitVec b) = decide (b.toNat = 1) := by
  decide

private theorem toNat_unpackSign (b : BitVec 64) :
    (@unpackSign .binary64 b).toNat = b.toNat / Nat.pow 2 63 % 2 := by
  simp [unpackSign, Nat.shiftRight_eq_div_pow]

private theorem toNat_unpackExponent (b : BitVec 64) :
    (@unpackExponent .binary64 b).toNat = b.toNat / fractionCount % 2048 := by
  simp [unpackExponent, Nat.shiftRight_eq_div_pow, fractionCount]

private theorem toNat_unpackMantissa (b : BitVec 64) :
    (@unpackMantissa .binary64 b).toNat = b.toNat % fractionCount := by
  simp [unpackMantissa, fractionCount]

private theorem toNat_append_one (m : BitVec 52) : (1#1 ++ m).toNat = m.toNat + fractionCount := by
  rw [BitVec.toNat_append, ← Nat.shiftLeft_add_eq_or_of_lt m.isLt, Nat.add_comm]
  rfl

private theorem ofUnpacked_unpack (b : BitVec 64) :
    ofUnpacked (UnpackedFloat.unpack .binary64 b) = ofBits b.toNat := by
  have sign : isMinus (.ofBitVec (@unpackSign .binary64 b)) =
      decide (b.toNat / Nat.pow 2 63 % 2 = 1) := by rw [isMinus_ofBitVec, toNat_unpackSign]
  have exponent := toNat_unpackExponent b
  have mantissa := toNat_unpackMantissa b
  have full : @unpackExponent .binary64 b = -1#_ ↔ b.toNat / fractionCount % 2048 = 2047 := by
    rw [← exponent, BitVec.toNat_eq]; rfl
  have least : @unpackExponent .binary64 b = 0#_ ↔ b.toNat / fractionCount % 2048 = 0 := by
    rw [← exponent, BitVec.toNat_eq]; rfl
  have none : @unpackMantissa .binary64 b = 0#_ ↔ b.toNat % fractionCount = 0 := by
    rw [← mantissa, BitVec.toNat_eq]; rfl
  unfold UnpackedFloat.unpack ofBits
  dsimp only
  simp only [full, least, none]
  split
  · split
    · rw [ofUnpacked, sign]
    · rfl
  · split
    · split
      · next zero => rw [ofUnpacked, sign, zero]
      · next some =>
        rw [ofUnpacked, sign, mantissa, exponent]
        next zero => rw [zero]; rfl
    · next other =>
      have exponent' : ((b.toNat / fractionCount % 2048 : Nat) : Int) - (1023 + 52) =
          leastExponent + (b.toNat / fractionCount % 2048 - 1 : Nat) := by
        unfold leastExponent
        omega
      rw [ofUnpacked, sign, exponent, toNat_append_one, mantissa]
      exact congrArg _ exponent'

private theorem ofBits_injective {a b : Nat} (ha : a < Nat.pow 2 64) (hb : b < Nat.pow 2 64)
    (number : ofBits a ≠ nan) (h : ofBits a = ofBits b) : a = b := by
  have fields : (a / Nat.pow 2 63 % 2 = 1 ↔ b / Nat.pow 2 63 % 2 = 1) ∧
      a / fractionCount % 2048 = b / fractionCount % 2048 ∧
      a % fractionCount = b % fractionCount := by
    have few : a % fractionCount < fractionCount := Nat.mod_lt _ (by decide)
    have few' : b % fractionCount < fractionCount := Nat.mod_lt _ (by decide)
    unfold ofBits at h number
    dsimp only at h number
    split_ifs at h number <;>
      simp only [infinite.injEq, finite.injEq, decide_eq_decide, leastExponent] at h <;>
      first | contradiction | omega
  have count : fractionCount = 4503599627370496 := by decide
  have top : Nat.pow 2 63 = 9223372036854775808 := by decide
  have all : Nat.pow 2 64 = 18446744073709551616 := by decide
  rw [count, top] at fields
  rw [all] at ha hb
  omega

/-! ## Writing bits -/

/-- Whether a value is in the form in which doubles are kept: the significand fills its bits unless
the exponent is the least. -/
def Proper : Binary64 → Prop
  | finite _ m q => m < 2 * fractionCount ∧ leastExponent ≤ q ∧ q ≤ 971 ∧
      (q = leastExponent ∨ fractionCount ≤ m)
  | _ => True

private theorem proper_ofBits (bits : Nat) : (ofBits bits).Proper := by
  have fraction : bits % fractionCount < fractionCount := Nat.mod_lt _ (by decide)
  have exponent : bits / fractionCount % 2048 < 2048 := Nat.mod_lt _ (by decide)
  have positive : 0 < fractionCount := by decide
  unfold ofBits
  dsimp only
  split
  · split <;> trivial
  · split
    · exact ⟨by omega, Int.le_refl _, by decide, .inl rfl⟩
    · simp only [Proper, leastExponent]
      omega

private theorem toNat_toBitVec (s : Sign) : s.toBitVec.toNat = (isMinus s).toNat := by
  cases s <;> rfl

private theorem toNat_packComponents (s : Sign) (e : BitVec 11) (m : BitVec 52) :
    (packComponents .binary64 s e m).toNat =
      (isMinus s).toNat * Nat.pow 2 63 + e.toNat * fractionCount + m.toNat := by
  have inner : (s.toBitVec ++ e).toNat = s.toBitVec.toNat * 2048 + e.toNat := by
    rw [BitVec.toNat_append, ← Nat.shiftLeft_add_eq_or_of_lt e.isLt, Nat.shiftLeft_eq]
  have whole : (s.toBitVec ++ e ++ m).toNat =
      (s.toBitVec ++ e).toNat * fractionCount + m.toNat := by
    rw [BitVec.toNat_append, ← Nat.shiftLeft_add_eq_or_of_lt m.isLt, Nat.shiftLeft_eq]
    rfl
  have sign := toNat_toBitVec s
  have pow : Nat.pow 2 63 = 2048 * fractionCount := by decide
  rw [packComponents, whole, inner, sign, pow]
  ring

private theorem ofBits_packComponents (s : Sign) {e m : Nat} (he : e < 2048)
    (hm : m < fractionCount) :
    ofBits (packComponents .binary64 s (BitVec.ofNat 11 e) (BitVec.ofNat 52 m)).toNat =
      if e = 2047 then if m = 0 then infinite (isMinus s) else nan
      else if e = 0 then finite (isMinus s) m leastExponent
      else finite (isMinus s) (m + fractionCount) (leastExponent + (e - 1 : Nat)) := by
  have exponent : (BitVec.ofNat 11 e).toNat = e := Nat.mod_eq_of_lt he
  have mantissa : (BitVec.ofNat 52 m).toNat = m := Nat.mod_eq_of_lt hm
  have bit := (isMinus s).toNat_lt
  have count : fractionCount = 4503599627370496 := by decide
  have top : Nat.pow 2 63 = 9223372036854775808 := by decide
  rw [toNat_packComponents, exponent, mantissa]
  generalize hb : (isMinus s).toNat * Nat.pow 2 63 + e * fractionCount + m = bits
  rw [count] at hm hb
  rw [top] at hb
  have sign : bits / Nat.pow 2 63 % 2 = (isMinus s).toNat := by rw [top]; omega
  have first : bits / fractionCount % 2048 = e := by rw [count]; omega
  have last : bits % fractionCount = m := by rw [count]; omega
  unfold ofBits
  dsimp only
  rw [first, last, sign]
  cases isMinus s <;> rfl

private theorem ofBits_pack {u : UnpackedFloat} (proper : (ofUnpacked u).Proper) :
    ofBits (UnpackedFloat.pack .binary64 u).toNat = ofUnpacked u := by
  cases u with
  | notANumber => decide
  | infinity s => cases s <;> decide
  | zero s => cases s <;> decide
  | finite s m e positive =>
    obtain ⟨bound, least, most, full⟩ := proper
    have count : fractionCount = 2 ^ 52 := by decide
    have double : 2 * fractionCount = 2 ^ 53 := by decide
    have narrow : m.log2 < 53 := (Nat.log2_lt positive.ne').mpr (double ▸ bound)
    have wide : m.log2 + 1 = 53 ↔ fractionCount ≤ m := by
      have := Nat.le_log2 positive.ne' (k := 52)
      rw [count]
      omega
    have biased : ∃ k : Nat, (e + 1023 + 52).toNat = k ∧ (k : Int) = e + 1075 ∧ 1 ≤ k ∧ k < 2047 :=
      ⟨_, rfl, by unfold leastExponent at least; omega⟩
    obtain ⟨k, biased, exponent, low, high⟩ := biased
    have packed : UnpackedFloat.pack .binary64 (.finite s m e positive) =
        if 2048 ≤ k + 1 then packComponents .binary64 s (-1#_) 0
        else if m.log2 + 1 = 53 then
          packComponents .binary64 s (BitVec.ofNat _ k) (BitVec.ofNat _ m)
        else packComponents .binary64 s 0#_ (BitVec.ofNat _ m) := by
      rw [← biased]
      rfl
    rw [packed, if_neg (by omega), ofUnpacked]
    split
    · next normal =>
      have large := wide.mp normal
      have fraction : BitVec.ofNat 52 m = BitVec.ofNat 52 (m - fractionCount) := by
        apply BitVec.eq_of_toNat_eq
        simp only [BitVec.toNat_ofNat]
        omega
      rw [fraction, ofBits_packComponents s (by omega) (by omega), if_neg (by omega),
        if_neg (by omega), finite.injEq]
      refine ⟨rfl, Nat.sub_add_cancel large, ?_⟩
      unfold leastExponent
      omega
    · next subnormal =>
      have small : m < fractionCount := Nat.lt_of_not_le (mt wide.mpr subnormal)
      have place : e = leastExponent := full.resolve_right (by omega)
      rw [show (0#11) = BitVec.ofNat 11 0 from rfl, ofBits_packComponents s (by decide) small,
        if_neg (by decide), if_pos rfl, place]

theorem unpack_pack {u : UnpackedFloat} (proper : (ofUnpacked u).Proper) :
    (Float.Model.pack u).unpack = u :=
  ofUnpacked_injective ((ofUnpacked_unpack _).trans (ofBits_pack proper))

/-! ## Doubles -/

theorem ofFloat_eq (x : Float) : ofFloat x = ofUnpacked x.toModel.unpack :=
  (ofUnpacked_unpack x.toModel.toBits.toBitVec).symm

theorem proper_ofFloat (x : Float) : (ofFloat x).Proper := proper_ofBits _

private theorem proper_unpack (x : Float) : (ofUnpacked x.toModel.unpack).Proper :=
  ofFloat_eq x ▸ proper_ofFloat x

theorem ofFloat_ofBits (bits : UInt64) : ofFloat (Float.ofBits bits) = ofBits bits.toNat := by
  have parts := ofUnpacked_unpack bits.toBitVec
  rw [ofFloat_eq, Float.ofBits, Float.Model.ofBits, unpack_pack (parts ▸ proper_ofBits _)]
  exact parts

theorem eq_of_unpack {x y : Float} (number : x.toModel.unpack ≠ .notANumber)
    (h : x.toModel.unpack = y.toModel.unpack) : x = y := by
  have value : ofFloat x = ofFloat y := by rw [ofFloat_eq, ofFloat_eq, h]
  have some : ofFloat x ≠ nan := by
    rw [ofFloat_eq]
    exact fun none => number (ofUnpacked_injective none)
  have bits := ofBits_injective x.toBits.toNat_lt y.toBits.toNat_lt some value
  rw [← Float.ofBits_toBits x, UInt64.toNat.inj bits, Float.ofBits_toBits]

protected def neg : Binary64 → Binary64
  | nan => nan
  | infinite negative => infinite !negative
  | finite negative m q => finite (!negative) m q

private theorem isMinus_neg (s : Sign) : isMinus (-s) = !isMinus s := by
  cases s <;> rfl

theorem unpack_neg (x : Float) : (-x).toModel.unpack = x.toModel.unpack.neg := by
  refine unpack_pack ?_
  have proper := proper_unpack x
  cases h : x.toModel.unpack <;> rw [h] at proper <;> exact proper

theorem unpack_abs (x : Float) : x.abs.toModel.unpack = x.toModel.unpack.abs := by
  refine unpack_pack ?_
  have proper := proper_unpack x
  cases h : x.toModel.unpack <;> rw [h] at proper <;> exact proper

theorem ofFloat_neg (x : Float) : ofFloat (-x) = (ofFloat x).neg := by
  rw [ofFloat_eq, ofFloat_eq, unpack_neg]
  cases x.toModel.unpack <;> simp [ofUnpacked, UnpackedFloat.neg, Binary64.neg, isMinus_neg]

theorem isFinite_iff {x : Float} :
    x.isFinite = true ↔ ∃ negative m q, ofFloat x = finite negative m q := by
  rw [ofFloat_eq, Float.isFinite, Float.Model.isFinite]
  cases x.toModel.unpack <;> simp [ofUnpacked, UnpackedFloat.isFinite]

end Worksheet.Binary64

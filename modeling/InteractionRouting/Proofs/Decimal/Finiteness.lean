import InteractionRouting.Json.Basic
import Mathlib.Algebra.GroupWithZero.Nat
import Mathlib.Tactic.Common

/-!
# Integers as doubles

The double nearest to an integer that fits a word is finite.  Rounding makes a significand at most
one bit longer and an exponent larger by at most the length of the significand, so the largest of
these integers stays far inside the range of doubles, and what is inside the range is packed as a
finite double.
-/

namespace InteractionRouting.Decimal

open Float.Model Float.Model.UnpackedFloat

/-- A number whose significand has at most `bits` bits and whose exponent is at most `top`. -/
def Bounded (bits top : Nat) : UnpackedFloat → Prop
  | .zero _ => True
  | .finite _ m e _ => m < 2 ^ bits ∧ e ≤ top
  | .infinity _ | .notANumber => False

variable {bits bits' top top' : Nat} {f g : UnpackedFloat}

/-- A number within bounds is finite. -/
theorem Bounded.isFinite_eq (h : Bounded bits top f) :
  f.isFinite = true
  := by
  cases f with
  | zero | finite => rfl
  | infinity | notANumber => contradiction

/-- A number stays within bounds when its exponent may be larger. -/
theorem Bounded.mono (h : Bounded bits top f) (htop : top ≤ top') :
  Bounded bits top' f
  := by
  cases f with
  | zero => trivial
  | finite sign m e => exact ⟨h.1, Int.le_trans h.2 (Int.ofNat_le.mpr htop)⟩
  | infinity | notANumber => contradiction

/-- A number and its negative are within the same bounds. -/
theorem Bounded.neg (h : Bounded bits top f) :
  Bounded bits top f.neg
  := by
  cases f with
  | zero | finite => exact h
  | infinity | notANumber => contradiction

/-! ### Rounding -/

/-- Shifting to the right makes no significand greater. -/
theorem mantissa_shiftRight_le (em : ExtendedMantissa) (n : Nat) :
  (em >>> n).mantissa ≤ em.mantissa
  := by
  induction n with
  | zero => exact Nat.le_refl _
  | succ n ih =>
    have hstep : (em >>> (n + 1)).mantissa = (em >>> n).mantissa / 2 := rfl
    rw [hstep]
    exact Nat.le_trans (Nat.div_le_self _ _) ih

/-- Rounding adds at most one to a significand. -/
theorem roundedMantissa_le (em : ExtendedMantissa) :
  em.roundedMantissa ≤ em.mantissa + 1
  := by
  obtain ⟨m, round, sticky⟩ := em
  cases round with
  | false => cases sticky with
    | false | true => exact Nat.le_succ m
  | true => cases sticky with
    | false =>
      have hround : ExtendedMantissa.roundedMantissa ⟨m, true, false⟩ = m + m % 2 := rfl
      rw [hround]
      dsimp only
      omega
    | true => exact Nat.le_refl _

/-- Shifting to the exponent that the format asks for makes no significand longer. -/
theorem shiftToTargetExponent_le {m : Nat} {e : Int} (hm : m < 2 ^ bits) (he : e ≤ top) :
  (shiftToTargetExponent Format.binary64 m e .exact).1.mantissa ≤ m
    ∧ (shiftToTargetExponent Format.binary64 m e .exact).2 ≤ (top + bits : Nat)
  := by
  constructor
  · exact mantissa_shiftRight_le ⟨m, false, false⟩ _
  · have hlog : m.log2 ≤ bits := by
      by_cases hzero : m = 0
      · rw [hzero, Nat.log2_zero]
        exact Nat.zero_le bits
      · exact Nat.le_of_lt ((Nat.log2_lt hzero).mpr hm)
    have hexponent : (shiftToTargetExponent Format.binary64 m e .exact).2
        = e + (max ((m.log2 : Int) + 1 + e - 53) (-1074) - e).toNat := rfl
    rw [hexponent]
    omega

/-- A rounded number has a significand that is at most one bit longer, and an exponent that is
larger by at most twice the length of the significand and one. -/
theorem bounded_roundWithAccuracy {m : Nat} {e : Int} (hm : m < 2 ^ bits) (he : e ≤ top)
    (sign : Sign) :
  Bounded (bits + 1) (top + 2 * bits + 1) (roundWithAccuracy Format.binary64 sign m e .exact)
  := by
  rw [roundWithAccuracy]
  obtain ⟨hfirst, hexponent⟩ := shiftToTargetExponent_le hm he
  generalize shiftToTargetExponent Format.binary64 m e .exact = first at hfirst hexponent
  obtain ⟨em, e₁⟩ := first
  dsimp only at hfirst hexponent ⊢
  have hrounded : em.roundedMantissa < 2 ^ (bits + 1) := by
    have hle := roundedMantissa_le em
    have hpos := Nat.two_pow_pos bits
    rw [Nat.pow_succ]
    omega
  -- rounding may have made the significand one bit longer, so there is a second shift
  obtain ⟨hsecond, hexponent⟩ := shiftToTargetExponent_le hrounded hexponent
  generalize shiftToTargetExponent Format.binary64 em.roundedMantissa e₁ .exact = second
    at hsecond hexponent
  by_cases hzero : second.1.mantissa = 0
  · rw [dif_pos hzero]
    trivial
  · rw [dif_neg hzero]
    have htop : top + 2 * bits + 1 = top + bits + (bits + 1) := by omega
    rw [htop]
    exact ⟨Nat.lt_of_le_of_lt hsecond hrounded, hexponent⟩

/-- A product has a significand at most as long as those of both factors together. -/
theorem Bounded.mul (hf : Bounded bits top f) (hg : Bounded bits' top' g) :
  Bounded (bits + bits' + 1) (top + top' + 2 * (bits + bits') + 1)
    (UnpackedFloat.mul Format.binary64 f g)
  := by
  cases f with
  | infinity | notANumber => contradiction
  | zero =>
    cases g with
    | infinity | notANumber => contradiction
    | zero | finite => trivial
  | finite s m e hpos =>
    cases g with
    | infinity | notANumber => contradiction
    | zero => trivial
    | finite s' m' e' hpos' =>
      obtain ⟨hm, he⟩ := hf
      obtain ⟨hm', he'⟩ := hg
      apply bounded_roundWithAccuracy
      · rw [Nat.pow_add]
        exact Nat.mul_lt_mul'' hm hm'
      · exact Int.add_le_add he he'

/-! ### Packing -/

/-- Every exponent but the greatest is that of a finite number. -/
theorem bounded_unpack {b : BitVec Format.binary64.numBits}
    (hexponent : (unpackExponent b).toNat < 2047) (htop : (unpackExponent b).toNat ≤ top + 1075) :
  Bounded 53 top (UnpackedFloat.unpack Format.binary64 b)
  := by
  unfold UnpackedFloat.unpack
  dsimp only
  generalize unpackExponent b = exponent at hexponent htop ⊢
  have hne : exponent ≠ -1#11 := by
    rintro rfl
    exact absurd hexponent (by decide)
  rw [if_neg hne]
  by_cases hsubnormal : exponent = 0#11
  · rw [if_pos hsubnormal, hsubnormal]
    by_cases hzero : unpackMantissa b = 0#52
    · rw [dif_pos hzero]
      trivial
    · rw [dif_neg hzero]
      constructor
      · exact Nat.lt_of_lt_of_le (unpackMantissa b).isLt (by decide)
      · show (0 : Int) - (1023 + 52) + 1 ≤ top
        omega
  · rw [if_neg hsubnormal]
    constructor
    · exact (1#1 ++ unpackMantissa b).isLt
    · show (exponent.toNat : Int) - (1023 + 52) ≤ top
      omega

/-- What is packed with any exponent but the greatest is unpacked as a finite number. -/
theorem bounded_unpack_packComponents {exponent : BitVec 11} (hexponent : exponent.toNat < 2047)
    (htop : exponent.toNat ≤ top + 1075) (sign : Sign) (mantissa : BitVec 52) :
  Bounded 53 top
    (UnpackedFloat.unpack Format.binary64 (packComponents Format.binary64 sign exponent mantissa))
  := by
  have hunpack := @unpackExponent_packComponents Format.binary64 sign exponent mantissa
  apply bounded_unpack
  · rw [hunpack]
    exact hexponent
  · rw [hunpack]
    exact htop

/-- A number within bounds that are inside the range of doubles is packed as a finite double. -/
theorem bounded_unpack_pack (h : Bounded bits top f) (htop : top + 1076 < 2047) :
  Bounded 53 top (Float.Model.pack f).unpack
  := by
  show Bounded 53 top (UnpackedFloat.unpack Format.binary64 (UnpackedFloat.pack Format.binary64 f))
  cases f with
  | infinity | notANumber => contradiction
  | zero sign => exact bounded_unpack_packComponents (by decide) (by simp) sign 0
  | finite sign m e hpos =>
    obtain ⟨-, he⟩ := h
    have hbias : Format.binary64.exponentBias = 1023 := rfl
    unfold UnpackedFloat.pack
    dsimp only
    rw [if_neg (by omega)]
    split
    · have hexponent : (BitVec.ofNat 11 (e + Format.binary64.exponentBias + (52 : Nat)).toNat).toNat
          = (e + Format.binary64.exponentBias + (52 : Nat)).toNat := Nat.mod_eq_of_lt (by omega)
      apply bounded_unpack_packComponents
      · omega
      · omega
    · exact bounded_unpack_packComponents (by decide) (by simp) sign _

/-! ### Integers -/

/-- One is the power of ten by which an integer is scaled. -/
theorem unpack_one :
  Float.exactlyRepresentablePowersOfTen[0].toModel.unpack
    = .finite .positive (2 ^ 52) (-52) (by decide)
  := rfl

/-- A significand is first shifted up to the length that the format has for it. -/
theorem bounded_round {m : Nat} (hm : m < 2 ^ 64) (sign : Sign) :
  Bounded 117 233 (UnpackedFloat.round Format.binary64 sign m 0)
  := by
  have hshift : (0 - max ((m.log2 : Int) + 1 + 0 - 53) (-1074)).toNat ≤ 52 := by omega
  have hlong : m <<< (0 - max ((m.log2 : Int) + 1 + 0 - 53) (-1074)).toNat < 2 ^ 116 := by
    calc m <<< _ = m * 2 ^ _ := Nat.shiftLeft_eq _ _
      _ ≤ m * 2 ^ 52 := Nat.mul_le_mul_left m (Nat.pow_le_pow_right (by decide) hshift)
      _ < 2 ^ 64 * 2 ^ 52 := Nat.mul_lt_mul_of_pos_right hm (by decide)
      _ = 2 ^ 116 := by rw [← Nat.pow_add]
  have hexponent : 0 - ((0 - max ((m.log2 : Int) + 1 + 0 - 53) (-1074)).toNat : Int) ≤ 0 := by
    omega
  have hround : UnpackedFloat.round Format.binary64 sign m 0
      = roundWithAccuracy Format.binary64 sign
          (m <<< (0 - max ((m.log2 : Int) + 1 + 0 - 53) (-1074)).toNat)
          (0 - (0 - max ((m.log2 : Int) + 1 + 0 - 53) (-1074)).toNat) .exact := rfl
  rw [hround]
  exact bounded_roundWithAccuracy hlong hexponent sign

/-- An integer of a word is rounded within bounds. -/
theorem bounded_normalize {n : Nat} (hn : n < 2 ^ 64) :
  Bounded 117 233 (UnpackedFloat.normalize Format.binary64 n 0 .positive)
  := by
  rw [UnpackedFloat.normalize]
  split
  · next hneg => exact absurd (Int.compare_eq_lt.mp hneg) (by omega)
  · trivial
  · apply bounded_round hn

/-- The double nearest to a word is within bounds. -/
theorem bounded_ofUInt64 (n : UInt64) :
  Bounded 53 233 n.toFloat.toModel.unpack
  := bounded_unpack_pack (bounded_normalize n.toNat_lt) (by decide)

/-- A significand that is scaled is first made longer by the length that the format has for it. -/
theorem bounded_ofScientific {n : Nat} (hn : n < 2 ^ 64) :
  Bounded 119 237 (UnpackedFloat.ofScientific Format.binary64 n 0)
  := by
  by_cases hzero : n = 0
  · rw [hzero]
    trivial
  · have hscaled : UnpackedFloat.ofScientific Format.binary64 n 0
        = roundWithAccuracy Format.binary64 .positive (n <<< 53 * 10 ^ 0) (-53 + 0) .exact := by
      rw [UnpackedFloat.ofScientific, dif_neg hzero, if_neg (by decide), if_neg, if_pos (by decide)]
      · rfl
      · have hpos : (0 : Int) ≤ 2 ^ Format.binary64.exponentBits := by decide
        omega
    rw [hscaled]
    have hlong : n <<< 53 * 10 ^ 0 < 2 ^ 118 := by
      rw [Nat.shiftLeft_eq, Nat.pow_zero, Nat.mul_one]
      omega
    exact @bounded_roundWithAccuracy _ 0 _ _ hlong (by decide) .positive

/-- An integer that fits the significand is scaled by one, and a greater one is rounded at once. -/
theorem bounded_ofNat {n : Nat} (hn : n < 2 ^ 64) :
  Bounded 53 446 (Float.ofNat n).toModel.unpack
  := by
  by_cases hshort : n < 2 ^ 53 ∧ 0 ≤ 22
  · have hofNat : Float.ofNat n
        = n.toUInt64.toFloat * Float.exactlyRepresentablePowersOfTen[0] := dif_pos hshort
    have hone : Bounded 53 0 Float.exactlyRepresentablePowersOfTen[0].toModel.unpack := by
      rw [unpack_one]
      exact ⟨by decide, by decide⟩
    rw [hofNat]
    exact bounded_unpack_pack ((bounded_ofUInt64 _).mul hone) (by decide)
  · have hofNat : Float.ofNat n = .ofModel (Float.Model.ofScientific n 0) := dif_neg hshort
    rw [hofNat]
    exact (bounded_unpack_pack (bounded_ofScientific hn) (by decide)).mono (by decide)

/-- The double nearest to an integer that fits a word is finite. -/
theorem isFinite_toFloat (i : WideInt) :
  i.toFloat.isFinite = true
  := by
  obtain ⟨n | n, hlower, hupper⟩ := i
  · exact (bounded_ofNat (Int.ofNat_lt.mp hupper)).isFinite_eq
  · have hn : n + 1 < 2 ^ 64 := by omega
    exact (bounded_unpack_pack (bounded_ofNat hn).neg (by decide)).isFinite_eq

end InteractionRouting.Decimal

import CloudTemplate.Proofs.Rounding.NormalForm
import CloudTemplate.Decimal.Binary

/-!
# Integers among the binary numbers

A binary number that is an integer in its normal form represents the integer
(`Rounding.Represents`). Every integer that is converted represents what it is rounded to
(`Rounding.represents_ofInt`), and the sum of two numbers represents the rounded sum
(`Rounding.Represents.add`), as long as the integers are not too large.

When such a number is taken apart, it is found to be finite and to be the integer
(`Decimal.isFinite_of_represents`, `Decimal.integer?_of_represents`).
-/

set_option autoImplicit false

namespace CloudTemplate

open Float.Model Float.Model.UnpackedFloat

namespace Rounding

/-- A binary number is an integer. -/
def Represents (x : Float) (z : Int) : Prop :=
  Denotes x.toModel.unpack z

theorem represents_pack {f : UnpackedFloat} {z : Int} (denotes : Denotes f z)
    (small : z.natAbs ≤ 2 ^ 128) : Represents (.ofModel (.pack f)) z := by
  change Denotes (UnpackedFloat.unpack Format.binary64 (UnpackedFloat.pack Format.binary64 f)) z
  rwa [unpack_pack denotes small]

theorem represents_zero : Represents 0.0 0 :=
  .zero

namespace Represents

variable {x y : Float} {i j : Int}

theorem add (first : Represents x i) (second : Represents y j)
    (small : (i + j).natAbs ≤ 2 ^ 128) : Represents (x + y) (rounded (i + j)) :=
  represents_pack (Denotes.add first second) (natAbs_rounded_le small)

theorem lt_iff (first : Represents x i) (second : Represents y j) : x < y ↔ i < j :=
  decide_eq_true_iff.trans (Denotes.lt_iff first second)

theorem isNaN_eq_false (represents : Represents x i) : x.isNaN = false := by
  change x.toModel.unpack.isNaN = false
  unfold Represents at represents
  generalize x.toModel.unpack = f at *
  cases represents
  · rfl
  · rfl

end Represents

/-! ## Conversion of integers -/

/-- The number one, as it stands first among the powers of ten. -/
theorem unpack_one (positive : 0 < 2 ^ 52) :
    (Float.ofBits 0x3FF0000000000000).toModel.unpack = .finite .positive (2 ^ 52) (-52) positive :=
  rfl

theorem Represents.mul_one {x : Float} {i : Int} (represents : Represents x i)
    (small : i.natAbs ≤ 2 ^ 128) : Represents (x * Float.ofBits 0x3FF0000000000000) i := by
  have product := Denotes.mul_one represents (by decide)
  rw [← unpack_one] at product
  exact represents_pack product small

theorem represents_ofUInt64 (n : UInt64) : Represents n.toFloat (rounded n.toNat) := by
  have bound := n.toNat_lt
  exact represents_pack (ofInt_denotes _) (natAbs_rounded_le (by omega))

theorem represents_ofNat {n : Nat} (small : n ≤ 2 ^ 128) :
    Represents (Float.ofNat n) (rounded n) := by
  change Represents (Float.ofScientific n false 0) _
  unfold Float.ofScientific
  split
  next short =>
    -- Numbers of one word are multiplied with a power of ten, which is the first one here.
    obtain ⟨short, -⟩ := short
    have word : n.toUInt64.toNat = n := Nat.mod_eq_of_lt (by omega)
    have represents := represents_ofUInt64 n.toUInt64
    rw [word] at represents
    exact represents.mul_one (natAbs_rounded_le small)
  next long => exact represents_pack (ofScientific_denotes (by omega)) (natAbs_rounded_le small)

/-- **Integers are rounded** when they become binary numbers. -/
theorem represents_ofInt {z : Int} (small : z.natAbs ≤ 2 ^ 128) :
    Represents (Float.ofInt z) (rounded z) := by
  cases z with
  | ofNat n => exact represents_ofNat small
  | negSucc n =>
    have negated : Int.negSucc n = -((n + 1 : Nat) : Int) := rfl
    have nonzero : rounded ((n + 1 : Nat) : Int) ≠ 0 := rounded_eq_zero_iff.not.2 (by omega)
    change Represents (Float.neg (Float.ofNat (n + 1))) _
    rw [negated, rounded_neg]
    refine represents_pack ((represents_ofNat small).neg nonzero) ?_
    rw [Int.natAbs_neg]
    exact natAbs_rounded_le small

end Rounding

/-! ## Numbers taken apart -/

namespace Decimal

/-- Whether a sign is that of the negative numbers. -/
def isNegative : Sign → Bool
  | .negative => true
  | .positive => false

section Fields

variable (bits : BitVec 64)

theorem toNat_unpackExponent :
    (@unpackExponent Format.binary64 bits).toNat = bits.toNat / 2 ^ 52 % 2 ^ 11 := by
  simp [unpackExponent, Nat.shiftRight_eq_div_pow]

theorem toNat_unpackMantissa :
    (@unpackMantissa Format.binary64 bits).toNat = bits.toNat % 2 ^ 52 := by
  simp [unpackMantissa]

theorem isNegative_unpackSign :
    isNegative (Sign.ofBitVec (@unpackSign Format.binary64 bits)) = (bits.toNat / 2 ^ 63 == 1) := by
  have value : (@unpackSign Format.binary64 bits).toNat = bits.toNat / 2 ^ 63 % 2 := by
    simp [unpackSign, Nat.shiftRight_eq_div_pow]
  have bound := bits.isLt
  unfold Sign.ofBitVec
  split
  next zero =>
    rw [zero] at value
    change 0 = _ at value
    have none : bits.toNat / 2 ^ 63 = 0 := by omega
    rw [none]
    rfl
  next nonzero =>
    have one : bits.toNat / 2 ^ 63 = 1 := by
      by_contra other
      refine nonzero (BitVec.eq_of_toNat_eq ?_)
      rw [value]
      change _ = 0
      omega
    rw [one]
    rfl

end Fields

/-- The arithmetic of numbers takes them apart in the same way. -/
theorem Binary.ofFloat_eq (x : Float) :
    Binary.ofFloat x = match x.toModel.unpack with
      | .notANumber => .nan
      | .infinity sign => .infinite (isNegative sign)
      | .zero sign => .finite (isNegative sign) 0 (-1074)
      | .finite sign m e _ => .finite (isNegative sign) m e := by
  unfold Float.Model.unpack UnpackedFloat.unpack
  change (let bits : Nat := x.toModel.toBits.toBitVec.toNat
    if bits / 2 ^ 52 % 2 ^ 11 = 2 ^ 11 - 1 then
      if bits % 2 ^ 52 = 0 then Binary.infinite (bits / 2 ^ 63 == 1) else .nan
    else if bits / 2 ^ 52 % 2 ^ 11 = 0 then .finite (bits / 2 ^ 63 == 1) (bits % 2 ^ 52) (-1074)
    else .finite (bits / 2 ^ 63 == 1) (bits % 2 ^ 52 + 2 ^ 52)
      (((bits / 2 ^ 52 % 2 ^ 11 : Nat) : Int) - 1075)) = _
  generalize x.toModel.toBits.toBitVec = bits
  have exponent := toNat_unpackExponent bits
  have mantissa := toNat_unpackMantissa bits
  have infinite : @unpackExponent Format.binary64 bits = -1#11 ↔
      bits.toNat / 2 ^ 52 % 2 ^ 11 = 2 ^ 11 - 1 := by
    rw [← exponent, ← BitVec.toNat_inj]
    rfl
  have least : @unpackExponent Format.binary64 bits = 0#11 ↔
      bits.toNat / 2 ^ 52 % 2 ^ 11 = 0 := by
    rw [← exponent, ← BitVec.toNat_inj]
    rfl
  have none : @unpackMantissa Format.binary64 bits = 0#52 ↔ bits.toNat % 2 ^ 52 = 0 := by
    rw [← mantissa, ← BitVec.toNat_inj]
    rfl
  have digits : (1#1 ++ @unpackMantissa Format.binary64 bits).toNat =
      bits.toNat % 2 ^ 52 + 2 ^ 52 := by
    rw [BitVec.toNat_append, ← Nat.shiftLeft_add_eq_or_of_lt (BitVec.isLt _), mantissa]
    exact Nat.add_comm _ _
  dsimp only
  rw [← isNegative_unpackSign]
  by_cases large : @unpackExponent Format.binary64 bits = -1#11
  · rw [if_pos large, if_pos (infinite.1 large)]
    by_cases empty : @unpackMantissa Format.binary64 bits = 0#52
    · rw [if_pos empty, if_pos (none.1 empty)]
    · rw [if_neg empty, if_neg (none.not.1 empty)]
  rw [if_neg large, if_neg (infinite.not.1 large)]
  by_cases small : @unpackExponent Format.binary64 bits = 0#11
  · rw [if_pos small, if_pos (least.1 small)]
    by_cases empty : @unpackMantissa Format.binary64 bits = 0#52
    · rw [dif_pos empty, none.1 empty]
    · rw [dif_neg empty]
      dsimp only
      rw [mantissa, small]
      rfl
  · rw [if_neg small, if_neg (least.not.1 small)]
    dsimp only
    rw [digits, exponent]
    rfl

theorem Binary.signed_isNegative (sign : Sign) (size : Nat) :
    signed (isNegative sign) size = sign.apply size := by
  cases sign
  · rfl
  · rfl

/-- A mantissa and an exponent of a whole number. -/
theorem Binary.whole {m shift size : Nat} (same : m * 2 ^ shift = size * 2 ^ 52) :
    isWhole m (shift - 52) = true ∧ wholePart m (shift - 52) = size := by
  unfold isWhole wholePart
  rcases Rounding.shift_cases same with ⟨large, rfl⟩ | ⟨small, rfl⟩
  · have nonneg : (0 : Int) ≤ shift - 52 := by omega
    have amount : ((shift : Int) - 52).toNat = shift - 52 := by omega
    rw [if_pos nonneg, decide_eq_true nonneg, amount]
    exact ⟨rfl, rfl⟩
  · have negative : ¬(0 : Int) ≤ shift - 52 := by omega
    have amount : (-((shift : Int) - 52)).toNat = 52 - shift := by omega
    rw [if_neg negative, decide_eq_false negative, amount]
    exact ⟨beq_iff_eq.2 (Nat.mul_mod_left _ _), Nat.mul_div_cancel _ (Nat.two_pow_pos _)⟩

theorem Binary.whole_zero (exponent : Int) :
    isWhole 0 exponent = true ∧ wholePart 0 exponent = 0 := by
  simp [isWhole, wholePart]

section Represents

variable {x : Float} {z : Int} (represents : Rounding.Represents x z)
include represents

theorem isFinite_of_represents : isFinite x = true := by
  unfold Rounding.Represents at represents
  rw [isFinite, Binary.ofFloat_eq]
  generalize x.toModel.unpack = f at *
  cases represents
  · rfl
  · rfl

theorem integer?_of_represents : integer? x = some z := by
  unfold Rounding.Represents at represents
  rw [integer?, Binary.ofFloat_eq]
  generalize x.toModel.unpack = f at *
  cases represents with
  | zero =>
    obtain ⟨whole, part⟩ := Binary.whole_zero (-1074)
    dsimp only
    rw [if_pos whole, part]
    rfl
  | @finite sign m shift positive _ low high value =>
    obtain ⟨whole, part⟩ := Binary.whole (Rounding.mul_pow_eq_natAbs value)
    dsimp only
    rw [if_pos whole, part, Binary.signed_isNegative, Rounding.apply_natAbs value positive]

end Represents

end Decimal

end CloudTemplate

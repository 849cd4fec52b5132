import CloudTemplate.Proofs.Rounding

/-!
# Normal forms of integers

The arithmetic of binary numbers is computed on numbers taken apart: a sign, a mantissa and an
exponent. In its normal form, an integer is the positive zero or has a mantissa of 53 digits
(`Rounding.Denotes`).

Everything here that is rounded goes through one function, which shifts the surplus digits out and
looks at two bits for what was lost. For an integer it computes what `Rounding.magnitude` does
(`Rounding.roundWithAccuracy_denotes`), whatever the mantissa and the exponent in which the integer
was given. So the conversion of integers, their sum and their product with one are the normal forms
of rounded integers (`Rounding.ofInt_denotes`, `Rounding.Denotes.add`, `Rounding.Denotes.mul_one`),
and normal forms are compared like the integers (`Rounding.Denotes.lt_iff`). The bits of a number
keep the normal form of every integer that is not too large (`Rounding.unpack_pack`).
-/

set_option autoImplicit false

namespace CloudTemplate.Rounding

open Float.Model Float.Model.UnpackedFloat

variable {m n a b : Nat} {e : Int}

/-! ## Shifting -/

/-- What is left after a shift, and the two bits about what was lost: whether it is half a unit or
more, and whether it is neither nothing nor just the half. -/
theorem shiftRight_exact (m shift : Nat) :
    ((⟨m, false, false⟩ : ExtendedMantissa) >>> shift) =
      ⟨m / 2 ^ shift, decide (2 ^ shift ≤ 2 * (m % 2 ^ shift)),
        decide (m % 2 ^ shift ≠ 0 ∧ 2 * (m % 2 ^ shift) ≠ 2 ^ shift)⟩ := by
  induction shift with
  | zero =>
    change (⟨m, false, false⟩ : ExtendedMantissa) = _
    simp [Nat.mod_one]
  | succ shift ih =>
    change ExtendedMantissa.shiftRightOne ((⟨m, false, false⟩ : ExtendedMantissa) >>> shift) = _
    have split : m % 2 ^ (shift + 1) = m % 2 ^ shift + 2 ^ shift * (m / 2 ^ shift % 2) := by
      rw [pow_succ, Nat.mod_mul]
    have rest := Nat.mod_lt m (Nat.two_pow_pos shift)
    rw [ih, split, Nat.pow_succ, ← Nat.div_div_eq_div_mul]
    unfold ExtendedMantissa.shiftRightOne
    dsimp only
    generalize m % 2 ^ shift = left at *
    generalize 2 ^ shift = unit at *
    rw [ExtendedMantissa.mk.injEq]
    refine ⟨rfl, ?_, ?_⟩
    · rw [Bool.eq_iff_iff, bne_iff_ne, decide_eq_true_iff]
      rcases Nat.mod_two_eq_zero_or_one (m / unit) with even | odd
      · rw [even]
        omega
      · rw [odd]
        omega
    · rw [Bool.eq_iff_iff, Bool.or_eq_true, decide_eq_true_iff, decide_eq_true_iff,
        decide_eq_true_iff]
      rcases Nat.mod_two_eq_zero_or_one (m / unit) with even | odd
      · rw [even]
        omega
      · rw [odd]
        omega

/-- A shift that is rounded by its two bits is a division. -/
theorem roundedMantissa_shiftRight (m shift : Nat) :
    ((⟨m, false, false⟩ : ExtendedMantissa) >>> shift).roundedMantissa = quotient m shift := by
  have rest := Nat.mod_lt m (Nat.two_pow_pos shift)
  rw [shiftRight_exact, quotient]
  generalize m % 2 ^ shift = left at *
  generalize 2 ^ shift = unit at *
  unfold ExtendedMantissa.roundedMantissa
  split_ifs with below above
  · have half : decide (unit ≤ 2 * left) = false := decide_eq_false (by omega)
    rw [half]
    cases decide (left ≠ 0 ∧ 2 * left ≠ unit)
    · rfl
    · rfl
  · have half : decide (unit ≤ 2 * left) = true := decide_eq_true (by omega)
    have other : decide (left ≠ 0 ∧ 2 * left ≠ unit) = true := decide_eq_true (by omega)
    rw [half, other]
    rfl
  · have half : decide (unit ≤ 2 * left) = true := decide_eq_true (by omega)
    have other : decide (left ≠ 0 ∧ 2 * left ≠ unit) = false := decide_eq_false (by omega)
    rw [half, other]
    rfl

/-- A number that is not tiny has 53 digits. -/
theorem targetExponent_binary64 (large : 0 ≤ m.log2 + e) :
    Format.binary64.targetExponent (totalExponent m e) = m.log2 + e - 52 := by
  change max (m.log2 + 1 + e - 53) (-1074) = m.log2 + e - 52
  omega

theorem shiftToTargetExponent_exact (long : 52 ≤ m.log2) (large : 0 ≤ m.log2 + e) :
    shiftToTargetExponent Format.binary64 m e .exact =
      ((⟨m, false, false⟩ : ExtendedMantissa) >>> surplus m, m.log2 + e - 52) := by
  have digits := log2_eq_add_surplus long
  have amount : (m.log2 + e - 52 - e).toNat = surplus m := by omega
  have exponent : e + surplus m = m.log2 + e - 52 := by omega
  unfold shiftToTargetExponent shiftToExponent
  dsimp only
  rw [targetExponent_binary64 large, amount, exponent]
  rfl

/-- Rounding gives 53 digits or the next power of two, which has a zero at its end. -/
theorem div_pow_surplus (low : 2 ^ 52 ≤ m) (high : m ≤ 2 ^ 53) :
    52 ≤ m.log2 ∧ 2 ^ 52 ≤ m / 2 ^ surplus m ∧ m / 2 ^ surplus m < 2 ^ 53 ∧
      m / 2 ^ surplus m * 2 ^ surplus m = m := by
  rcases high.lt_or_eq with less | rfl
  · have digits : m.log2 = 52 := (Nat.log2_eq_iff (by omega)).2 ⟨low, less⟩
    have none : surplus m = 0 := by rw [surplus, digits]
    rw [none, pow_zero, Nat.div_one, mul_one]
    exact ⟨digits.ge, low, less, rfl⟩
  · decide

/-! ## Integers in their normal form -/

/-- A number taken apart is the normal form of an integer. -/
inductive Denotes : UnpackedFloat → Int → Prop
  | zero : Denotes (.zero .positive) 0
  | finite {sign : Sign} {m shift : Nat} {positive : 0 < m} {z : Int} (low : 2 ^ 52 ≤ m)
      (high : m < 2 ^ 53) (value : sign.apply (m * 2 ^ shift) = z * 2 ^ 52) :
      Denotes (.finite sign m (shift - 52) positive) z

theorem apply_mul (sign : Sign) (x y : Int) : sign.apply (x * y) = sign.apply x * y := by
  cases sign
  · exact (neg_mul x y).symm
  · rfl

section Values

variable {sign : Sign} {shift : Nat} {z : Int}
  (value : sign.apply (m * 2 ^ shift) = z * 2 ^ 52)
include value

/-- The size of an integer in its normal form. -/
theorem mul_pow_eq_natAbs : m * 2 ^ shift = z.natAbs * 2 ^ 52 := by
  have sizes := congrArg Int.natAbs value
  have unsigned : (sign.apply (m * 2 ^ shift)).natAbs = m * 2 ^ shift := by
    cases sign
    · change (-((m : Int) * 2 ^ shift)).natAbs = _
      rw [Int.natAbs_neg, Int.natAbs_mul, Int.natAbs_pow]
      rfl
    · change ((m : Int) * 2 ^ shift).natAbs = _
      rw [Int.natAbs_mul, Int.natAbs_pow]
      rfl
  rwa [unsigned, Int.natAbs_mul, Int.natAbs_pow] at sizes

/-- The sign of an integer in its normal form. -/
theorem apply_natAbs (positive : 0 < m) : sign.apply z.natAbs = z := by
  have size : (0 : Int) < m * 2 ^ shift := by positivity
  cases sign with
  | negative =>
    change -((m : Int) * 2 ^ shift) = _ at value
    change -(z.natAbs : Int) = _
    omega
  | positive =>
    change (m : Int) * 2 ^ shift = _ at value
    change (z.natAbs : Int) = _
    omega

end Values

/-- The point either stands behind zeros that follow the digits, or cuts zeros off their end. -/
theorem shift_cases {m shift k : Nat} (same : m * 2 ^ shift = k * 2 ^ 52) :
    (52 ≤ shift ∧ k = m * 2 ^ (shift - 52)) ∨ (shift < 52 ∧ m = k * 2 ^ (52 - shift)) := by
  rcases Nat.lt_or_ge shift 52 with less | more
  · refine .inr ⟨less, Nat.eq_of_mul_eq_mul_right (Nat.two_pow_pos shift) ?_⟩
    rw [same, mul_assoc, ← pow_add, Nat.sub_add_cancel less.le]
  · refine .inl ⟨more, Nat.eq_of_mul_eq_mul_right (Nat.two_pow_pos 52) ?_⟩
    rw [← same, mul_assoc, ← pow_add, Nat.sub_add_cancel more]

/-- Only short integers have a normal form, so rounding keeps them. -/
theorem Denotes.rounded_eq {f : UnpackedFloat} {z : Int} (denotes : Denotes f z) :
    rounded z = z := by
  refine rounded_eq_self_iff.2 ?_
  cases denotes with
  | zero => exact ⟨0, 0, by decide, rfl⟩
  | @finite sign m shift _ _ low high value =>
    rcases shift_cases (mul_pow_eq_natAbs value) with ⟨-, size⟩ | ⟨-, digits⟩
    · exact ⟨m, shift - 52, high.le, size⟩
    · refine ⟨z.natAbs, 0, ?_, (mul_one _).symm⟩
      exact ((Nat.le_mul_of_pos_right _ (Nat.two_pow_pos _)).trans digits.ge).trans high.le

/-! ## Rounding to normal forms -/

/-- An integer that is given with at least 53 digits is rounded to its first 53. -/
theorem roundWithAccuracy_denotes (sign : Sign) (nonzero : n ≠ 0) (long : 52 ≤ m.log2)
    (same : m * 2 ^ a = n * 2 ^ b) (exponent : e = a - b) :
    Denotes (roundWithAccuracy Format.binary64 sign m e .exact) (sign.apply (magnitude n)) := by
  have filled : m ≠ 0 := by
    rintro rfl
    cases long
  have places : m.log2 + a = n.log2 + b := by
    rw [← log2_mul_pow filled, same, log2_mul_pow nonzero]
  obtain ⟨again, least, most, whole⟩ :=
    div_pow_surplus (le_quotient_surplus long) (quotient_surplus_le m)
  have digits := log2_eq_add_surplus again
  have value : quotient m (surplus m) * 2 ^ n.log2 = magnitude n * 2 ^ 52 := by
    refine Nat.eq_of_mul_eq_mul_right (Nat.two_pow_pos b) ?_
    calc quotient m (surplus m) * 2 ^ n.log2 * 2 ^ b
      _ = quotient m (surplus m) * 2 ^ (52 + surplus m + a) := by
        rw [mul_assoc, ← pow_add, ← places, ← log2_eq_add_surplus long]
      _ = magnitude m * 2 ^ a * 2 ^ 52 := by
        rw [magnitude, pow_add, pow_add]
        ring
      _ = magnitude n * 2 ^ 52 * 2 ^ b := by
        rw [← magnitude_scale, same, magnitude_scale]
        ring
  have position : ((quotient m (surplus m)).log2 + (m.log2 + e - 52) - 52 : Int) =
      ((n.log2 + surplus (quotient m (surplus m)) : Nat) : Int) - 52 := by
    omega
  unfold roundWithAccuracy
  rw [shiftToTargetExponent_exact long (by omega)]
  dsimp only
  -- The second shift is for the power of two that rounding may give.
  rw [roundedMantissa_shiftRight, shiftToTargetExponent_exact again (by omega), shiftRight_exact]
  dsimp only
  rw [dif_neg (by omega)]
  simp only [position]
  refine .finite least most ?_
  rw [← apply_mul]
  congr 1
  norm_cast
  rw [← value, pow_add, mul_comm (2 ^ n.log2), ← mul_assoc, whole]

/-- An integer that is given with any digits is rounded to its first 53. -/
theorem round_denotes (sign : Sign) (nonzero : n ≠ 0) (same : m * 2 ^ a = n * 2 ^ b)
    (exponent : e = a - b) :
    Denotes (UnpackedFloat.round Format.binary64 sign m e) (sign.apply (magnitude n)) := by
  have filled : m ≠ 0 := by
    rintro rfl
    have : 0 < n * 2 ^ b := Nat.mul_pos (by omega) (Nat.two_pow_pos b)
    omega
  have places : m.log2 + a = n.log2 + b := by
    rw [← log2_mul_pow filled, same, log2_mul_pow nonzero]
  have amount : (e - (m.log2 + e - 52)).toNat = 52 - m.log2 := by omega
  have longer : m * 2 ^ (52 - m.log2) * 2 ^ a = n * 2 ^ (b + (52 - m.log2)) := by
    rw [Nat.mul_right_comm, same, pow_add, mul_assoc]
  unfold UnpackedFloat.round decreaseExponent
  dsimp only
  rw [targetExponent_binary64 (by omega), amount, Nat.shiftLeft_eq]
  refine roundWithAccuracy_denotes sign nonzero ?_ longer (by omega)
  rw [log2_mul_pow filled]
  omega

/-- An integer that is given in any way is rounded. -/
theorem normalize_denotes {z w : Int} (same : z * 2 ^ a = w * 2 ^ b) (exponent : e = a - b) :
    Denotes (UnpackedFloat.normalize Format.binary64 z e .positive) (rounded w) := by
  have left : (0 : Int) < 2 ^ a := by positivity
  have right : (0 : Int) < 2 ^ b := by positivity
  have sizes : z.natAbs * 2 ^ a = w.natAbs * 2 ^ b := by
    have absolute := congrArg Int.natAbs same
    rwa [Int.natAbs_mul, Int.natAbs_mul, Int.natAbs_pow, Int.natAbs_pow] at absolute
  have signs : z.sign = w.sign := by
    have signed := congrArg Int.sign same
    rwa [Int.sign_mul, Int.sign_mul, Int.sign_eq_one_of_pos left, Int.sign_eq_one_of_pos right,
      mul_one, mul_one] at signed
  unfold UnpackedFloat.normalize
  rcases lt_trichotomy z 0 with negative | rfl | positive
  · have sign : w.sign = -1 := by rw [← signs, Int.sign_eq_neg_one_of_neg negative]
    have nonzero : w.natAbs ≠ 0 := Int.natAbs_ne_zero.2 (by rintro rfl; cases sign)
    have size : (-z).toNat = z.natAbs := by omega
    have mirrored : rounded w = Sign.negative.apply (magnitude w.natAbs) := by
      rw [rounded, sign, neg_one_mul]
      rfl
    rw [compare_lt_iff_lt.2 negative, mirrored]
    dsimp only
    rw [size]
    exact round_denotes .negative nonzero sizes exponent
  · obtain rfl : w = 0 := Int.sign_eq_zero_iff_zero.1 signs.symm
    exact .zero
  · have sign : w.sign = 1 := by rw [← signs, Int.sign_eq_one_of_pos positive]
    have nonzero : w.natAbs ≠ 0 := Int.natAbs_ne_zero.2 (by rintro rfl; cases sign)
    have size : z.toNat = z.natAbs := by omega
    have same_sign : rounded w = Sign.positive.apply (magnitude w.natAbs) := by
      rw [rounded, sign, one_mul]
      rfl
    rw [compare_gt_iff_gt.2 positive, same_sign]
    dsimp only
    rw [size]
    exact round_denotes .positive nonzero sizes exponent

theorem ofInt_denotes (z : Int) : Denotes (UnpackedFloat.ofInt Format.binary64 z) (rounded z) :=
  normalize_denotes (a := 0) (b := 0) rfl rfl

/-- A whole number in scientific notation without an exponent. -/
theorem ofScientific_denotes (nonzero : n ≠ 0) :
    Denotes (UnpackedFloat.ofScientific Format.binary64 n 0) (rounded n) := by
  have bound : ¬(0 : Int) < -(2 ^ Format.binary64.exponentBits + n.log2) := by
    change ¬(0 : Int) < -((2 : Int) ^ 11 + n.log2)
    omega
  have digits : n <<< 53 * 1 = n * 2 ^ 53 := by rw [Nat.mul_one, Nat.shiftLeft_eq]
  unfold UnpackedFloat.ofScientific
  rw [dif_neg nonzero, if_neg (by decide), if_neg bound, if_pos le_rfl, rounded_natCast]
  unfold UnpackedFloat.mul
  dsimp only
  refine roundWithAccuracy_denotes (m := n <<< 53 * 1) .positive nonzero (a := 0) (b := 53)
    ?_ ?_ rfl
  · rw [digits, log2_mul_pow nonzero]
    omega
  · rw [digits, pow_zero, Nat.mul_one]

/-! ## Arithmetic of normal forms -/

theorem Denotes.add {f g : UnpackedFloat} {x y : Int} (first : Denotes f x) (second : Denotes g y) :
    Denotes (UnpackedFloat.add Format.binary64 f g) (rounded (x + y)) := by
  have kept := first.rounded_eq
  have kept' := second.rounded_eq
  cases first with
  | zero =>
    rw [zero_add, kept']
    cases second with
    | zero => exact .zero
    | finite low high value => exact .finite low high value
  | @finite sign m shift _ _ low high value =>
    cases second with
    | zero =>
      rw [add_zero, kept]
      exact .finite low high value
    | @finite sign' m' shift' _ _ low' high' value' =>
      -- Both are shifted to the smaller of the two exponents.
      have amount : ((shift : Int) - 52 - min ((shift : Int) - 52) (shift' - 52)).toNat =
          shift - min shift shift' := by omega
      have amount' : ((shift' : Int) - 52 - min ((shift : Int) - 52) (shift' - 52)).toNat =
          shift' - min shift shift' := by omega
      unfold UnpackedFloat.add decreaseExponent
      dsimp only
      rw [amount, amount', Nat.shiftLeft_eq, Nat.shiftLeft_eq]
      refine normalize_denotes (a := min shift shift') (b := 52) ?_ (by omega)
      rw [add_mul, add_mul, ← value, ← value', ← apply_mul, ← apply_mul]
      push_cast
      rw [mul_assoc, mul_assoc, ← pow_add, ← pow_add, Nat.sub_add_cancel (min_le_left _ _),
        Nat.sub_add_cancel (min_le_right _ _)]

theorem Denotes.mul_one {f : UnpackedFloat} {z : Int} (denotes : Denotes f z)
    (positive : 0 < 2 ^ 52) :
    Denotes (UnpackedFloat.mul Format.binary64 f (.finite .positive (2 ^ 52) (-52) positive))
      z := by
  have kept := denotes.rounded_eq
  cases denotes with
  | zero => exact .zero
  | @finite sign m shift filled _ low high value =>
    have size := mul_pow_eq_natAbs value
    have nonzero : z.natAbs ≠ 0 := by
      intro zero
      rw [zero, zero_mul] at size
      exact (Nat.mul_pos filled (Nat.two_pow_pos shift)).ne' size
    have same_sign : sign * .positive = sign := by cases sign <;> rfl
    have value : z = sign.apply (magnitude z.natAbs) := by
      rw [← natAbs_rounded, kept, apply_natAbs value filled]
    unfold UnpackedFloat.mul
    dsimp only
    rw [same_sign, value]
    refine roundWithAccuracy_denotes sign nonzero (a := shift) (b := 104) ?_ ?_ (by omega)
    · rw [log2_mul_pow filled.ne']
      omega
    · rw [mul_right_comm, size]
      ring

/-- There is no negative zero among the normal forms, so zero is not negated. -/
theorem Denotes.neg {f : UnpackedFloat} {z : Int} (denotes : Denotes f z) (nonzero : z ≠ 0) :
    Denotes f.neg (-z) := by
  cases denotes with
  | zero => exact absurd rfl nonzero
  | @finite sign m shift positive _ low high value =>
    refine .finite low high ?_
    rw [neg_mul, ← value]
    cases sign with
    | negative => exact (neg_neg _).symm
    | positive => rfl

/-! ## Comparison -/

/-- Of two numbers with 53 digits each, the one with more zeros behind them is larger. -/
theorem mul_pow_lt_iff {i j : Nat} (low : 2 ^ 52 ≤ m) (high : m < 2 ^ 53) (low' : 2 ^ 52 ≤ n)
    (high' : n < 2 ^ 53) : m * 2 ^ i < n * 2 ^ j ↔ i < j ∨ i = j ∧ m < n := by
  have apart : ∀ {m n i j : Nat}, m < 2 ^ 53 → 2 ^ 52 ≤ n → i < j → m * 2 ^ i < n * 2 ^ j := by
    intro m n i j high low less
    calc m * 2 ^ i
      _ < 2 ^ 53 * 2 ^ i := Nat.mul_lt_mul_of_pos_right high (Nat.two_pow_pos i)
      _ = 2 ^ 52 * 2 ^ (i + 1) := by ring
      _ ≤ n * 2 ^ j := Nat.mul_le_mul low (Nat.pow_le_pow_right (by decide) less)
  rcases lt_trichotomy i j with less | rfl | more
  · simp [less, apart high low' less]
  · simp [Nat.mul_lt_mul_right (Nat.two_pow_pos i)]
  · have greater := apart high' low more
    simp only [greater.not_gt, false_iff]
    omega

theorem compare_digits_eq_lt_iff {i j : Nat} (low : 2 ^ 52 ≤ m) (high : m < 2 ^ 53)
    (low' : 2 ^ 52 ≤ n) (high' : n < 2 ^ 53) :
    (compare ((i : Int) - 52) (j - 52)).then (compare m n) = .lt ↔
      (m : Int) * 2 ^ i < n * 2 ^ j := by
  have digits : (m : Int) * 2 ^ i < n * 2 ^ j ↔ m * 2 ^ i < n * 2 ^ j := by norm_cast
  rw [digits, mul_pow_lt_iff low high low' high', Ordering.then_eq_lt, compare_lt_iff_lt,
    compare_lt_iff_lt, compare_eq_iff_eq]
  omega

/-- Normal forms are compared like the integers. -/
theorem Denotes.lt_iff {f g : UnpackedFloat} {x y : Int} (first : Denotes f x)
    (second : Denotes g y) : f.lt g = true ↔ x < y := by
  have scale : x < y ↔ x * 2 ^ 52 < y * 2 ^ 52 := by omega
  unfold UnpackedFloat.lt
  rw [beq_iff_eq, scale]
  cases first with
  | zero =>
    cases second with
    | zero => exact iff_of_false nofun (lt_irrefl _)
    | @finite sign n j positive _ low' high' value' =>
      have size : (0 : Int) < n * 2 ^ j := by positivity
      rw [← value', zero_mul]
      cases sign with
      | negative => exact iff_of_false nofun (neg_neg_of_pos size).not_gt
      | positive => exact iff_of_true rfl size
  | @finite sign m i positive _ low high value =>
    have size : (0 : Int) < m * 2 ^ i := by positivity
    rw [← value]
    cases second with
    | zero =>
      rw [zero_mul]
      cases sign with
      | negative => exact iff_of_true rfl (neg_neg_of_pos size)
      | positive => exact iff_of_false nofun size.not_gt
    | @finite sign' n j positive' _ low' high' value' =>
      have size' : (0 : Int) < n * 2 ^ j := by positivity
      rw [← value']
      cases sign with
      | negative =>
        cases sign' with
        | negative =>
          -- Of two negative numbers, the one with the larger digits is smaller.
          change some (_ : Ordering).swap = _ ↔ -_ < -_
          rw [Option.some_inj, Ordering.swap_then, Int.compare_swap, Nat.compare_swap,
            neg_lt_neg_iff]
          exact compare_digits_eq_lt_iff low' high' low high
        | positive => exact iff_of_true rfl ((neg_neg_of_pos size).trans size')
      | positive =>
        cases sign' with
        | negative => exact iff_of_false nofun ((neg_neg_of_pos size').trans size).not_gt
        | positive =>
          change some _ = _ ↔ _
          rw [Option.some_inj]
          exact compare_digits_eq_lt_iff low high low' high'

/-! ## Bits -/

theorem unpackSign_packComponents (spec : Format) (sign : Sign)
    (exponent : BitVec spec.exponentBits) (mantissa : BitVec spec.mantissaBitsWithoutImplicit) :
    Sign.ofBitVec (unpackSign (packComponents spec sign exponent mantissa)) = sign := by
  have bit : unpackSign (packComponents spec sign exponent mantissa) = sign.toBitVec := by
    refine BitVec.eq_of_getLsbD_eq fun i within => ?_
    obtain rfl : i = 0 := by omega
    simp [unpackSign, packComponents, BitVec.getLsbD_append, BitVec.getElem_append]
  rw [bit]
  cases sign
  · rfl
  · rfl

/-- The bits of a number with 53 digits tell its sign, its exponent and its digits. -/
theorem unpack_packComponents (sign : Sign) {biased : Nat} (positive : 0 < m) (low : 2 ^ 52 ≤ m)
    (high : m < 2 ^ 53) (least : 0 < biased) (most : biased < 2047) :
    UnpackedFloat.unpack Format.binary64 (packComponents Format.binary64 sign
        (BitVec.ofNat 11 biased) (BitVec.ofNat 52 m)) =
      .finite sign m (biased - 1075) positive := by
  have number : (BitVec.ofNat 11 biased).toNat = biased := by
    rw [BitVec.toNat_ofNat, Nat.mod_eq_of_lt (by omega)]
  have finite : BitVec.ofNat 11 biased ≠ -1#11 := by
    intro same
    have largest := congrArg BitVec.toNat same
    rw [number] at largest
    change biased = 2047 at largest
    omega
  have normal : BitVec.ofNat 11 biased ≠ 0#11 := by
    intro same
    have smallest := congrArg BitVec.toNat same
    rw [number] at smallest
    change biased = 0 at smallest
    omega
  have digits : (1#1 ++ BitVec.ofNat 52 m).toNat = m := by
    rw [BitVec.toNat_append, BitVec.toNat_ofNat, BitVec.toNat_ofNat,
      ← Nat.shiftLeft_add_eq_or_of_lt (Nat.mod_lt _ (by decide)), Nat.shiftLeft_eq]
    omega
  unfold UnpackedFloat.unpack
  simp only [unpackMantissa_packComponents, unpackExponent_packComponents,
    unpackSign_packComponents]
  rw [if_neg finite, if_neg normal]
  simp only [number, digits]
  rfl

/-- The normal form of an integer is found in its bits. -/
theorem unpack_pack {f : UnpackedFloat} {z : Int} (denotes : Denotes f z)
    (small : z.natAbs ≤ 2 ^ 128) :
    UnpackedFloat.unpack Format.binary64 (UnpackedFloat.pack Format.binary64 f) = f := by
  cases denotes with
  | zero => rfl
  | @finite sign m shift _ _ low high value =>
    have bound : shift ≤ 128 := by
      refine (Nat.pow_le_pow_iff_right (by decide : 1 < 2)).1 ?_
      refine Nat.le_of_mul_le_mul_left ?_ (Nat.two_pow_pos 52)
      calc 2 ^ 52 * 2 ^ shift
        _ ≤ m * 2 ^ shift := Nat.mul_le_mul_right _ low
        _ = 2 ^ 52 * z.natAbs := by rw [mul_pow_eq_natAbs value, mul_comm]
        _ ≤ 2 ^ 52 * 2 ^ 128 := Nat.mul_le_mul_left _ small
    have digits : m.log2 = 52 := (Nat.log2_eq_iff (by omega)).2 ⟨low, high⟩
    have full : 52 + 1 = Format.binary64.mantissaBits := rfl
    have biased : ((shift : Int) - 52 + Format.binary64.exponentBias + (52 : Nat)).toNat =
        shift + 1023 := by
      change ((shift : Int) - 52 + (1023 : Nat) + (52 : Nat)).toNat = _
      omega
    have exponent : ((shift + 1023 : Nat) : Int) - 1075 = shift - 52 := by omega
    unfold UnpackedFloat.pack
    dsimp only
    rw [biased, digits, if_neg (by omega), if_pos full,
      unpack_packComponents sign (by omega) low high (by omega) (by omega)]
    simp only [exponent]

end CloudTemplate.Rounding

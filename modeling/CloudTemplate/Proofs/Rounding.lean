import Mathlib

/-!
# Integers in binary numbers

A binary number has 53 digits. An integer that needs no more of them, apart from zeros at its end,
is a binary number itself (`Rounding.Short`). Every other integer lies between two of these, and
becomes the nearer one when it is turned into a binary number; of two that are equally near, the one
whose last digit is even.

`Rounding.rounded` computes this integer: it cuts off the digits beyond the first 53 and rounds what
is left. It keeps the integers that are short (`Rounding.rounded_eq_self_iff`), always gives one
that is (`Rounding.short_rounded`), and none is nearer (`Rounding.abs_sub_rounded_le`). Rounding
keeps the order of integers (`Rounding.rounded_mono`), so the greatest of several integers is still
the greatest after it.
-/

set_option autoImplicit false

namespace CloudTemplate.Rounding

/-! ## Quotients by powers of two -/

/-- `n / 2 ^ shift` as a natural number, rounded to the nearest one, and to the even one of two. -/
def quotient (n shift : Nat) : Nat :=
  if 2 * (n % 2 ^ shift) < 2 ^ shift then n / 2 ^ shift
  else if 2 ^ shift < 2 * (n % 2 ^ shift) then n / 2 ^ shift + 1
  else n / 2 ^ shift + n / 2 ^ shift % 2

variable {m n k shift : Nat}

/-- A multiple of the power is divided without a rest. -/
@[simp] theorem quotient_mul_pow (n shift : Nat) : quotient (n * 2 ^ shift) shift = n := by
  simp [quotient]

@[simp] theorem quotient_zero_right (n : Nat) : quotient n 0 = n := by
  simpa using quotient_mul_pow n 0

/-- A common power of two does not matter. -/
theorem quotient_scale (n shift k : Nat) : quotient (n * 2 ^ k) (shift + k) = quotient n shift := by
  have positive : 0 < 2 ^ k := Nat.two_pow_pos k
  have rest : n * 2 ^ k % 2 ^ (shift + k) = n % 2 ^ shift * 2 ^ k := by
    rw [pow_add, Nat.mul_mod_mul_right]
  have whole : n * 2 ^ k / 2 ^ (shift + k) = n / 2 ^ shift := by
    rw [pow_add, Nat.mul_div_mul_right _ _ positive]
  have below : 2 * (n % 2 ^ shift * 2 ^ k) < 2 ^ (shift + k) ↔ 2 * (n % 2 ^ shift) < 2 ^ shift := by
    rw [pow_add, ← mul_assoc, Nat.mul_lt_mul_right positive]
  have above : 2 ^ (shift + k) < 2 * (n % 2 ^ shift * 2 ^ k) ↔ 2 ^ shift < 2 * (n % 2 ^ shift) := by
    rw [pow_add, ← mul_assoc, Nat.mul_lt_mul_right positive]
  simp only [quotient, rest, whole, below, above]

/-- The quotient is half a unit off at most. -/
theorem quotient_error (n shift : Nat) :
    2 * n ≤ 2 * (quotient n shift * 2 ^ shift) + 2 ^ shift ∧
      2 * (quotient n shift * 2 ^ shift) ≤ 2 * n + 2 ^ shift := by
  have split := Nat.div_add_mod n (2 ^ shift)
  have rest := Nat.mod_lt n (Nat.two_pow_pos shift)
  have parity := Nat.mod_two_eq_zero_or_one (n / 2 ^ shift)
  unfold quotient
  generalize n / 2 ^ shift = whole at *
  generalize n % 2 ^ shift = left at *
  generalize 2 ^ shift = unit at *
  split_ifs
  · constructor <;> nlinarith
  · constructor <;> nlinarith
  · rcases parity with even | odd
    · constructor <;> nlinarith
    · constructor <;> nlinarith

theorem quotient_mono (shift : Nat) (le : m ≤ n) : quotient m shift ≤ quotient n shift := by
  have whole : m / 2 ^ shift ≤ n / 2 ^ shift := Nat.div_le_div_right le
  rcases whole.lt_or_eq with less | same
  · unfold quotient
    split_ifs <;> omega
  · have rest : m % 2 ^ shift ≤ n % 2 ^ shift := by
      have first := Nat.div_add_mod m (2 ^ shift)
      have second := Nat.div_add_mod n (2 ^ shift)
      rw [same] at first
      omega
    unfold quotient
    rw [same]
    split_ifs <;> omega

/-! ## Natural numbers -/

/-- How many binary digits a number has beyond the first 53. -/
def surplus (n : Nat) : Nat :=
  n.log2 - 52

/-- A natural number rounded to its first 53 binary digits. -/
def magnitude (n : Nat) : Nat :=
  quotient n (surplus n) * 2 ^ surplus n

theorem lt_pow_surplus (n : Nat) : n < 2 ^ 53 * 2 ^ surplus n := by
  have power : 2 ^ (n.log2 + 1) ≤ 2 ^ (53 + surplus n) :=
    Nat.pow_le_pow_right (by decide) (by unfold surplus; omega)
  rw [← pow_add]
  exact Nat.lt_log2_self.trans_le power

theorem log2_eq_add_surplus (long : 52 ≤ n.log2) : n.log2 = 52 + surplus n := by
  unfold surplus
  omega

theorem le_log2_of_surplus_ne_zero (many : surplus n ≠ 0) : 52 ≤ n.log2 := by
  unfold surplus at many
  omega

/-- What is left of a long number without its surplus digits has 53 digits. -/
theorem pow_surplus_le (long : 52 ≤ n.log2) : 2 ^ 52 * 2 ^ surplus n ≤ n := by
  have nonzero : n ≠ 0 := by
    rintro rfl
    cases long
  rw [← pow_add, ← log2_eq_add_surplus long]
  exact Nat.log2_self_le nonzero

theorem quotient_surplus_le (n : Nat) : quotient n (surplus n) ≤ 2 ^ 53 := by
  have le := quotient_mono (surplus n) (lt_pow_surplus n).le
  rwa [quotient_mul_pow] at le

theorem le_quotient_surplus (long : 52 ≤ n.log2) : 2 ^ 52 ≤ quotient n (surplus n) := by
  have le := quotient_mono (surplus n) (pow_surplus_le long)
  rwa [quotient_mul_pow] at le

theorem magnitude_of_surplus_eq_zero (none : surplus n = 0) : magnitude n = n := by
  simp [magnitude, none]

/-- A number whose surplus digits are zeros keeps its value. -/
theorem magnitude_of_dvd (divides : 2 ^ surplus n ∣ n) : magnitude n = n := by
  obtain ⟨whole, same⟩ := divides
  rw [mul_comm] at same
  unfold magnitude
  generalize surplus n = shift at *
  rw [same, quotient_mul_pow]

theorem surplus_mul_pow_le (short : m < 2 ^ 53) (k : Nat) : surplus (m * 2 ^ k) ≤ k := by
  rcases Nat.eq_zero_or_pos m with rfl | positive
  · simp [surplus]
  · have nonzero : m * 2 ^ k ≠ 0 := (Nat.mul_pos positive (Nat.two_pow_pos k)).ne'
    have fits : m * 2 ^ k < 2 ^ (53 + k) := by
      rw [pow_add]
      exact Nat.mul_lt_mul_of_pos_right short (Nat.two_pow_pos k)
    have digits := (Nat.log2_lt nonzero).2 fits
    unfold surplus
    omega

/-- A number of 53 digits with zeros behind it keeps its value. -/
theorem magnitude_mul_pow (short : m ≤ 2 ^ 53) (k : Nat) : magnitude (m * 2 ^ k) = m * 2 ^ k := by
  rcases short.lt_or_eq with less | rfl
  · exact magnitude_of_dvd ((pow_dvd_pow 2 (surplus_mul_pow_le less k)).trans (dvd_mul_left _ _))
  · -- One digit more than fits, but the last one is zero.
    have shifted : 2 ^ 53 * 2 ^ k = 2 ^ 52 * 2 ^ (k + 1) := by ring
    rw [shifted]
    exact magnitude_of_dvd
      ((pow_dvd_pow 2 (surplus_mul_pow_le (by decide) (k + 1))).trans (dvd_mul_left _ _))

theorem log2_mul_pow (nonzero : n ≠ 0) (k : Nat) : (n * 2 ^ k).log2 = n.log2 + k := by
  have positive : n * 2 ^ k ≠ 0 := (Nat.mul_pos (by omega) (Nat.two_pow_pos k)).ne'
  refine (Nat.log2_eq_iff positive).2 ⟨?_, ?_⟩
  · rw [pow_add]
    exact Nat.mul_le_mul_right _ (Nat.log2_self_le nonzero)
  · rw [Nat.add_right_comm, pow_add]
    exact Nat.mul_lt_mul_of_pos_right Nat.lt_log2_self (Nat.two_pow_pos k)

/-- Zeros behind a number do not matter. -/
theorem magnitude_scale (n k : Nat) : magnitude (n * 2 ^ k) = magnitude n * 2 ^ k := by
  by_cases few : surplus n = 0
  · have digits := lt_pow_surplus n
    rw [few] at digits
    rw [magnitude_of_surplus_eq_zero few]
    exact magnitude_mul_pow (by omega) k
  · have nonzero : n ≠ 0 := by
      rintro rfl
      exact few rfl
    have more : surplus (n * 2 ^ k) = surplus n + k := by
      unfold surplus at few ⊢
      rw [log2_mul_pow nonzero]
      omega
    rw [magnitude, more, quotient_scale, magnitude, mul_assoc, ← pow_add]

theorem surplus_mono (le : m ≤ n) : surplus m ≤ surplus n := by
  rcases Nat.eq_zero_or_pos m with rfl | positive
  · simp [surplus]
  · have digits : m.log2 ≤ n.log2 :=
      (Nat.le_log2 (by omega)).2 ((Nat.log2_self_le positive.ne').trans le)
    unfold surplus
    omega

theorem magnitude_mono (le : m ≤ n) : magnitude m ≤ magnitude n := by
  rcases (surplus_mono le).lt_or_eq with fewer | same
  · -- A power of two lies between the two numbers, and rounding does not cross it.
    have power : 2 ^ 53 * 2 ^ surplus m ≤ 2 ^ 52 * 2 ^ surplus n := by
      rw [← pow_add, ← pow_add]
      exact Nat.pow_le_pow_right (by decide) (by omega)
    calc magnitude m
      _ ≤ 2 ^ 53 * 2 ^ surplus m := Nat.mul_le_mul_right _ (quotient_surplus_le m)
      _ ≤ 2 ^ 52 * 2 ^ surplus n := power
      _ ≤ magnitude n :=
        Nat.mul_le_mul_right _ (le_quotient_surplus (le_log2_of_surplus_ne_zero (by omega)))
  · unfold magnitude
    rw [same]
    exact Nat.mul_le_mul_right _ (quotient_mono _ le)

/-! ## Integers -/

/-- The integer that an integer becomes as a binary number. -/
def rounded (n : Int) : Int :=
  n.sign * magnitude n.natAbs

/-- An integer with at most 53 binary digits, apart from zeros at the end. -/
def Short (n : Int) : Prop :=
  ∃ m k : Nat, m ≤ 2 ^ 53 ∧ n.natAbs = m * 2 ^ k

theorem short_rounded (n : Int) : Short (rounded n) := by
  refine ⟨n.sign.natAbs * quotient n.natAbs (surplus n.natAbs), surplus n.natAbs, ?_, ?_⟩
  · have unit : n.sign.natAbs ≤ 1 := by
      rcases Int.sign_trichotomy n with sign | sign | sign <;> simp [sign]
    calc n.sign.natAbs * quotient n.natAbs (surplus n.natAbs)
      _ ≤ 1 * 2 ^ 53 := Nat.mul_le_mul unit (quotient_surplus_le _)
      _ = 2 ^ 53 := one_mul _
  · simp [rounded, magnitude, Int.natAbs_mul, mul_assoc]

theorem rounded_eq_self_iff {n : Int} : rounded n = n ↔ Short n := by
  constructor
  · intro same
    rw [← same]
    exact short_rounded n
  · rintro ⟨m, k, short, digits⟩
    rw [rounded, digits, magnitude_mul_pow short, ← digits]
    exact Int.sign_mul_natAbs n

@[simp] theorem rounded_neg (n : Int) : rounded (-n) = -rounded n := by
  simp [rounded]

@[simp] theorem natAbs_rounded (n : Int) : (rounded n).natAbs = magnitude n.natAbs := by
  rcases eq_or_ne n 0 with rfl | nonzero
  · rfl
  · rw [rounded, Int.natAbs_mul, Int.natAbs_sign_of_ne_zero nonzero, one_mul, Int.natAbs_natCast]

theorem rounded_eq_zero_iff {n : Int} : rounded n = 0 ↔ n = 0 := by
  constructor
  · intro zero
    by_contra nonzero
    have least : magnitude 1 ≤ magnitude n.natAbs := magnitude_mono (by omega)
    rw [← natAbs_rounded, zero] at least
    exact absurd least (by decide)
  · rintro rfl
    rfl

/-- Rounding does not cross a power of two. -/
theorem natAbs_rounded_le {n : Int} {k : Nat} (small : n.natAbs ≤ 2 ^ k) :
    (rounded n).natAbs ≤ 2 ^ k := by
  have kept : magnitude (1 * 2 ^ k) = 1 * 2 ^ k := magnitude_mul_pow (by decide) k
  have mono := magnitude_mono small
  rw [← one_mul (2 ^ k), kept, one_mul] at mono
  rwa [natAbs_rounded]

theorem rounded_natCast (n : Nat) : rounded n = magnitude n := by
  rcases Nat.eq_zero_or_pos n with rfl | positive
  · rfl
  · have sign : (n : Int).sign = 1 := Int.sign_eq_one_of_pos (by omega)
    simp [rounded, sign]

/-- Integers up to `2 ^ 53` are kept. -/
theorem short_of_natAbs_le {n : Int} (small : n.natAbs ≤ 2 ^ 53) : Short n :=
  ⟨n.natAbs, 0, small, by simp⟩

theorem rounded_nonneg {n : Int} (nonneg : 0 ≤ n) : 0 ≤ rounded n := by
  obtain ⟨k, rfl⟩ := Int.eq_ofNat_of_zero_le nonneg
  rw [rounded_natCast]
  exact Int.natCast_nonneg _

theorem rounded_mono {m n : Int} (le : m ≤ n) : rounded m ≤ rounded n := by
  rcases le_total 0 m with nonneg | nonpos
  · obtain ⟨i, rfl⟩ := Int.eq_ofNat_of_zero_le nonneg
    obtain ⟨j, rfl⟩ := Int.eq_ofNat_of_zero_le (nonneg.trans le)
    rw [rounded_natCast, rounded_natCast]
    exact_mod_cast magnitude_mono (by omega)
  · have first : rounded m ≤ 0 := by
      have := rounded_nonneg (neg_nonneg.2 nonpos)
      rw [rounded_neg] at this
      omega
    rcases le_total 0 n with nonneg | negative
    · exact first.trans (rounded_nonneg nonneg)
    · obtain ⟨i, negated⟩ := Int.eq_ofNat_of_zero_le (neg_nonneg.2 nonpos)
      obtain ⟨j, negated'⟩ := Int.eq_ofNat_of_zero_le (neg_nonneg.2 negative)
      have opposite : rounded (-n) ≤ rounded (-m) := by
        rw [negated, negated', rounded_natCast, rounded_natCast]
        exact_mod_cast magnitude_mono (by omega)
      rw [rounded_neg, rounded_neg] at opposite
      omega

/-- Of the multiples of the power, the quotient belongs to a nearest one. -/
theorem abs_sub_quotient_le (n shift : Nat) (factor : Int) :
    |(n : Int) - (quotient n shift * 2 ^ shift : Nat)| ≤ |(n : Int) - factor * 2 ^ shift| := by
  obtain ⟨above, below⟩ := quotient_error n shift
  have unit : (0 : Int) < 2 ^ shift := by positivity
  have near : 2 * |(n : Int) - (quotient n shift * 2 ^ shift : Nat)| ≤ 2 ^ shift := by
    have double : |2 * ((n : Int) - (quotient n shift * 2 ^ shift : Nat))| ≤ 2 ^ shift := by
      zify at above below
      push_cast
      exact abs_le.2 ⟨by linarith, by linarith⟩
    rwa [abs_mul, abs_two] at double
  by_contra nearer
  push Not at nearer
  have apart : |(quotient n shift - factor) * (2 : Int) ^ shift| < 2 ^ shift := by
    have triangle := abs_sub_le ((quotient n shift * 2 ^ shift : Nat) : Int) n (factor * 2 ^ shift)
    rw [abs_sub_comm _ (n : Int)] at triangle
    rw [sub_mul]
    push_cast at *
    linarith
  have same : (quotient n shift : Int) - factor = 0 := by
    rw [abs_mul, abs_of_pos unit] at apart
    exact Int.abs_lt_one_iff.1 (lt_of_mul_lt_mul_right (by linarith) unit.le)
  rw [← sub_eq_zero.1 same] at nearer
  push_cast at nearer
  exact lt_irrefl _ nearer

theorem abs_sub_magnitude_le (n : Nat) {other : Int} (short : Short other) :
    |(n : Int) - magnitude n| ≤ |(n : Int) - other| := by
  obtain ⟨m, k, digits, same⟩ := short
  by_cases few : surplus n = 0
  · simp [magnitude_of_surplus_eq_zero few]
  rcases Nat.lt_or_ge k (surplus n) with shorter | longer
  · -- Such a number is at most the least one with 53 digits in front of as many zeros.
    have bound : m * 2 ^ k ≤ 2 ^ 52 * 2 ^ surplus n := by
      calc m * 2 ^ k
        _ ≤ 2 ^ 53 * 2 ^ (surplus n - 1) :=
          Nat.mul_le_mul digits (Nat.pow_le_pow_right (by decide) (by omega))
        _ = 2 ^ 52 * 2 ^ surplus n := by
          rw [← pow_add, ← pow_add]
          congr 1
          omega
    have least := pow_surplus_le (le_log2_of_surplus_ne_zero few)
    have nearest := abs_sub_quotient_le n (surplus n) (2 ^ 52)
    have between : |(n : Int) - 2 ^ 52 * 2 ^ surplus n| ≤ |(n : Int) - other| := by
      have below : other ≤ 2 ^ 52 * 2 ^ surplus n := by
        have : (other.natAbs : Int) ≤ 2 ^ 52 * 2 ^ surplus n := by exact_mod_cast same ▸ bound
        omega
      have above : (2 : Int) ^ 52 * 2 ^ surplus n ≤ n := by exact_mod_cast least
      rw [abs_of_nonneg (by linarith), abs_of_nonneg (by linarith)]
      linarith
    exact nearest.trans between
  · have multiple : ∃ factor : Int, other = factor * 2 ^ surplus n := by
      have divides : ((2 ^ surplus n : Nat) : Int) ∣ other := by
        rw [Int.natCast_dvd, same]
        exact (pow_dvd_pow 2 longer).trans (dvd_mul_left _ _)
      obtain ⟨factor, product⟩ := divides
      exact ⟨factor, by rw [product]; push_cast; ring⟩
    obtain ⟨factor, rfl⟩ := multiple
    exact abs_sub_quotient_le n (surplus n) factor

theorem short_neg {n : Int} (short : Short n) : Short (-n) := by
  obtain ⟨m, k, digits, same⟩ := short
  exact ⟨m, k, digits, by rwa [Int.natAbs_neg]⟩

/-- **Rounding is to the nearest**: no other short integer is nearer. -/
theorem abs_sub_rounded_le (n : Int) {other : Int} (short : Short other) :
    |n - rounded n| ≤ |n - other| := by
  obtain ⟨size, rfl | rfl⟩ := Int.eq_nat_or_neg n
  · rw [rounded_natCast]
    exact abs_sub_magnitude_le size short
  · have mirror : ∀ other : Int, |-(size : Int) - other| = |(size : Int) - -other| := by
      intro other
      rw [← abs_neg]
      ring_nf
    rw [mirror, mirror, rounded_neg, neg_neg, rounded_natCast]
    exact abs_sub_magnitude_le size (short_neg short)

end CloudTemplate.Rounding

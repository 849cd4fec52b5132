import Mathlib.Algebra.Group.Nat.Defs
import CloudTemplate.Base64

/-!
# The canonical encoding of bytes

What an encoding is can be said without an encoder. The bits of the bytes, with up to four zero
bits after them, are those of groups of six; each group has its symbol, and one padding character
stands for two of the zero bits, such that all characters together are four or eight or twelve or
more (`Encodes`). Bytes have one such text: the number of zero bits follows from the number of
bytes, and groups with the same bits are the same (`Spells.unique`).

The encoder writes it (`encodes_iff`). It works on three bytes at a time, whose bits are cut at
other places than those of the four groups that they make; one lemma about numbers and their bits
(`bits_join`) tells for each group and each byte where.
-/

set_option autoImplicit false

namespace CloudTemplate.Base64

/-! ## The format -/

/-- The lowest bits of a number, the highest of them first. -/
def bits : (width : Nat) → Nat → List Bool
  | 0, _ => []
  | width + 1, number => bits width (number / 2) ++ [decide (number % 2 = 1)]

/-- The groups have the bits of the bytes, and each padding character stands for two zero bits
after them. -/
structure Spells (bytes : List UInt8) (groups : List Nat) (pads : Nat) : Prop where
  small : ∀ group ∈ groups, group < 64
  few : pads ≤ 2
  whole : 4 ∣ groups.length + pads
  content : groups.flatMap (bits 6) =
    bytes.flatMap (fun byte => bits 8 byte.toNat) ++ List.replicate (2 * pads) false

/-- The text is the canonical encoding of the bytes: the symbols of groups that have their bits,
and all of the padding. -/
def Encodes (bytes : List UInt8) (text : List Char) : Prop :=
  ∃ groups pads, Spells bytes groups pads ∧ text = groups.map symbol ++ List.replicate pads '='

/-! ## Bits -/

@[simp]
theorem length_bits (width number : Nat) : (bits width number).length = width := by
  induction width generalizing number with
  | zero => rfl
  | succ width ih => rw [bits, List.length_append, ih, List.length_singleton]

theorem bits_zero (width : Nat) : bits width 0 = List.replicate width false := by
  induction width with
  | zero => rfl
  | succ width ih =>
    rw [bits, ih, List.replicate_succ']
    rfl

theorem bits_append (high low number rest : Nat) (small : rest < 2 ^ low) :
    bits (high + low) (number * 2 ^ low + rest) = bits high number ++ bits low rest := by
  induction low generalizing rest with
  | zero =>
    obtain rfl : rest = 0 := by omega
    rw [Nat.pow_zero, Nat.mul_one, bits, List.append_nil]
    rfl
  | succ low ih =>
    have double : number * 2 ^ (low + 1) = number * 2 ^ low * 2 := by
      rw [Nat.pow_succ, Nat.mul_assoc]
    have half : (number * 2 ^ (low + 1) + rest) / 2 = number * 2 ^ low + rest / 2 := by omega
    have last : (number * 2 ^ (low + 1) + rest) % 2 = rest % 2 := by omega
    have below : rest / 2 < 2 ^ low := by omega
    rw [← Nat.add_assoc, bits, bits, half, last, ih (rest / 2) below, List.append_assoc]

/-- The bits of a number are those of its higher and those of its lower part. -/
theorem bits_join {width whole high low number rest : Nat} (wide : width = high + low)
    (value : whole = number * 2 ^ low + rest) (small : rest < 2 ^ low) :
    bits width whole = bits high number ++ bits low rest := by
  rw [wide, value, bits_append high low number rest small]

theorem bits_inj {width number other : Nat} (small : number < 2 ^ width)
    (small' : other < 2 ^ width) (same : bits width number = bits width other) :
    number = other := by
  induction width generalizing number other with
  | zero => omega
  | succ width ih =>
    rw [bits, bits, List.append_singleton_inj] at same
    have half := ih (by omega) (by omega) same.1
    have last := decide_eq_decide.1 same.2
    omega

theorem length_flatMap_bits {α : Type} (width : Nat) (number : α → Nat) (items : List α) :
    (items.flatMap fun item => bits width (number item)).length = items.length * width := by
  induction items with
  | nil => rw [List.flatMap_nil, List.length_nil, List.length_nil, Nat.zero_mul]
  | cons item items ih =>
    rw [List.flatMap_cons, List.length_append, length_bits, ih, List.length_cons, Nat.succ_mul,
      Nat.add_comm]

/-- Groups of one width with the same bits are the same. -/
theorem flatMap_bits_inj {width : Nat} {numbers others : List Nat}
    (small : ∀ number ∈ numbers, number < 2 ^ width) (small' : ∀ other ∈ others, other < 2 ^ width)
    (long : numbers.length = others.length)
    (same : numbers.flatMap (bits width) = others.flatMap (bits width)) : numbers = others := by
  induction numbers generalizing others with
  | nil => exact (List.eq_nil_of_length_eq_zero long.symm).symm
  | cons number numbers ih =>
    obtain ⟨other, rest, rfl⟩ := List.exists_cons_of_length_eq_add_one long.symm
    rw [List.forall_mem_cons] at small small'
    rw [List.flatMap_cons, List.flatMap_cons] at same
    obtain ⟨first, later⟩ := List.append_inj same (by rw [length_bits, length_bits])
    rw [bits_inj small.1 small'.1 first, ih small.2 small'.2 (Nat.succ.inj long) later]

/-- Bytes have one canonical encoding. There are eight bits in a byte and six in a group, so the
length of the padding is determined by the number of bytes up to a multiple of three. -/
theorem Spells.unique {bytes : List UInt8} {groups others : List Nat} {pads fewer : Nat}
    (spells : Spells bytes groups pads) (again : Spells bytes others fewer) :
    groups = others ∧ pads = fewer := by
  have long := congrArg List.length spells.content
  have long' := congrArg List.length again.content
  have few := spells.few
  have few' := again.few
  have small : ∀ group ∈ groups, group < 2 ^ 6 := spells.small
  simp only [List.length_append, List.length_replicate, length_flatMap_bits 6 (fun group => group),
    length_flatMap_bits 8 UInt8.toNat] at long long'
  obtain rfl : pads = fewer := by omega
  refine ⟨flatMap_bits_inj small again.small (by omega) ?_, rfl⟩
  rw [spells.content, again.content]

/-! ## The encoder -/

/-- The groups of six bits that the encoder makes of bytes. -/
def groupsOf : List UInt8 → List Nat
  | [] => []
  | [a] => [a.toNat / 4, a.toNat % 4 * 16]
  | [a, b] => [a.toNat / 4, a.toNat % 4 * 16 + b.toNat / 16, b.toNat % 16 * 4]
  | a :: b :: c :: rest =>
    a.toNat / 4 :: (a.toNat % 4 * 16 + b.toNat / 16) :: (b.toNat % 16 * 4 + c.toNat / 64) ::
      c.toNat % 64 :: groupsOf rest

/-- The number of padding characters that the encoder writes. -/
def padsOf : List UInt8 → Nat
  | [] => 0
  | [_] => 2
  | [_, _] => 1
  | _ :: _ :: _ :: rest => padsOf rest

theorem symbol_congr {group other : Nat} (same : group % 64 = other % 64) :
    symbol group = symbol other := by
  rw [symbol, symbol, same]

/-- The encoder writes the symbols of its groups, and then the padding. -/
theorem encode_eq (bytes : List UInt8) :
    encode bytes = (groupsOf bytes).map symbol ++ List.replicate (padsOf bytes) '=' := by
  fun_induction groupsOf bytes with
  | case1 => rfl
  | case2 a =>
    have first : symbol (a.toNat * 16 / 64) = symbol (a.toNat / 4) := symbol_congr (by omega)
    have second : symbol (a.toNat * 16) = symbol (a.toNat % 4 * 16) := symbol_congr (by omega)
    simp [encode, padsOf, first, second]
  | case3 a b =>
    have bound := b.toNat_lt
    have first : symbol ((a.toNat * 256 + b.toNat) * 4 / 4096) = symbol (a.toNat / 4) :=
      symbol_congr (by omega)
    have second : symbol ((a.toNat * 256 + b.toNat) * 4 / 64) =
        symbol (a.toNat % 4 * 16 + b.toNat / 16) := symbol_congr (by omega)
    have third : symbol ((a.toNat * 256 + b.toNat) * 4) = symbol (b.toNat % 16 * 4) :=
      symbol_congr (by omega)
    simp [encode, padsOf, first, second, third]
  | case4 a b c rest ih =>
    have bound := b.toNat_lt
    have bound' := c.toNat_lt
    have first : symbol ((a.toNat * 65536 + b.toNat * 256 + c.toNat) / 262144) =
        symbol (a.toNat / 4) := symbol_congr (by omega)
    have second : symbol ((a.toNat * 65536 + b.toNat * 256 + c.toNat) / 4096) =
        symbol (a.toNat % 4 * 16 + b.toNat / 16) := symbol_congr (by omega)
    have third : symbol ((a.toNat * 65536 + b.toNat * 256 + c.toNat) / 64) =
        symbol (b.toNat % 16 * 4 + c.toNat / 64) := symbol_congr (by omega)
    have fourth : symbol (a.toNat * 65536 + b.toNat * 256 + c.toNat) = symbol (c.toNat % 64) :=
      symbol_congr (by omega)
    simp [encode, padsOf, first, second, third, fourth, ih]

/-- The first byte is a group and the two highest bits of the next one. -/
theorem bits_first (a : Nat) : bits 8 a = bits 6 (a / 4) ++ bits 2 (a % 4) :=
  bits_join rfl (by omega) (by omega)

/-- The second byte is cut in its middle. -/
theorem bits_second (b : Nat) : bits 8 b = bits 4 (b / 16) ++ bits 4 (b % 16) :=
  bits_join rfl (by omega) (by omega)

/-- The third byte is the two lowest bits of a group and the last group. -/
theorem bits_third (c : Nat) : bits 8 c = bits 2 (c / 64) ++ bits 6 (c % 64) :=
  bits_join rfl (by omega) (by omega)

/-- The second group lies across the first two bytes. -/
theorem bits_across (a : Nat) {b : Nat} (bound : b < 256) :
    bits 6 (a % 4 * 16 + b / 16) = bits 2 (a % 4) ++ bits 4 (b / 16) :=
  bits_join rfl (by omega) (by omega)

/-- The third group lies across the last two bytes. -/
theorem bits_across' (b : Nat) {c : Nat} (bound : c < 256) :
    bits 6 (b % 16 * 4 + c / 64) = bits 4 (b % 16) ++ bits 2 (c / 64) :=
  bits_join rfl (by omega) (by omega)

/-- The groups of the encoder have the bits of the bytes. -/
theorem spells_groupsOf (bytes : List UInt8) : Spells bytes (groupsOf bytes) (padsOf bytes) := by
  fun_induction groupsOf bytes with
  | case1 => exact ⟨nofun, Nat.zero_le 2, Nat.dvd_zero 4, rfl⟩
  | case2 a =>
    have bound := a.toNat_lt
    have last : bits 6 (a.toNat % 4 * 16) = bits 2 (a.toNat % 4) ++ bits 4 0 :=
      bits_join rfl (by omega) (by omega)
    refine ⟨by simp; omega, Nat.le_refl 2, Nat.dvd_refl 4, ?_⟩
    simp [padsOf, bits_first, last, bits_zero]
  | case3 a b =>
    have bound := a.toNat_lt
    have bound' := b.toNat_lt
    have last : bits 6 (b.toNat % 16 * 4) = bits 4 (b.toNat % 16) ++ bits 2 0 :=
      bits_join rfl (by omega) (by omega)
    refine ⟨by simp; omega, Nat.le_succ 1, Nat.dvd_refl 4, ?_⟩
    simp [padsOf, bits_first a.toNat, bits_second b.toNat, bits_across a.toNat bound', last,
      bits_zero]
  | case4 a b c rest ih =>
    have bound := a.toNat_lt
    have bound' := b.toNat_lt
    have bound'' := c.toNat_lt
    obtain ⟨small, few, whole, content⟩ := ih
    refine ⟨?_, few, ?_, ?_⟩
    · simp only [List.forall_mem_cons]
      exact ⟨by omega, by omega, by omega, by omega, small⟩
    · simp only [padsOf, List.length_cons]
      omega
    · simp [padsOf, bits_first a.toNat, bits_second b.toNat, bits_third c.toNat,
        bits_across a.toNat bound', bits_across' b.toNat bound'', content]

/-- **The encoder writes the canonical encoding.** -/
theorem encodes_iff {bytes : List UInt8} {text : List Char} :
    Encodes bytes text ↔ encode bytes = text := by
  constructor
  · rintro ⟨groups, pads, spells, rfl⟩
    obtain ⟨rfl, rfl⟩ := spells.unique (spells_groupsOf bytes)
    exact encode_eq bytes
  · rintro rfl
    exact ⟨groupsOf bytes, padsOf bytes, spells_groupsOf bytes, encode_eq bytes⟩

end CloudTemplate.Base64

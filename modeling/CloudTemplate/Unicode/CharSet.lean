import CloudTemplate.Text.Affix

/-!
# Sets of characters

A set of code points is a list of ranges, in any order and perhaps overlapping. Membership is
what counts: a union, a difference and a complement are described by the members they have
(`contains_union`, `contains_difference`, `contains_complement`). `normalized` gives the one
list of ranges that is sorted and has no two ranges touching.

Tables of the standard are written as text, the bounds of the ranges in hexadecimal, and read
with `CharSet.ofText`.
-/

set_option autoImplicit false

namespace CloudTemplate.Unicode

/-- A set of code points, as ranges with both ends included. -/
structure CharSet where
  ranges : List (Nat × Nat)
  deriving Repr, DecidableEq, Inhabited

namespace CharSet

/-- The empty set. -/
def empty : CharSet := ⟨[]⟩

/-- Every code point that is a character. -/
def all : CharSet := ⟨[(0, 0xD7FF), (0xE000, 0x10FFFF)]⟩

/-- The code points of ASCII. -/
def ascii : CharSet := ⟨[(0, 0x7F)]⟩

/-- The code points from `low` to `high`. -/
def range (low high : Nat) : CharSet := ⟨[(low, high)]⟩

/-- One character. -/
def single (c : Char) : CharSet := range c.toNat c.toNat

/-- Whether a code point lies in a range. -/
def within (code : Nat) (bounds : Nat × Nat) : Bool :=
  bounds.1 ≤ code && code ≤ bounds.2

/-- Whether the set has the code point. -/
def contains (set : CharSet) (code : Nat) : Bool :=
  set.ranges.any (within code)

/-- The members of either set. -/
def union (left right : CharSet) : CharSet := ⟨left.ranges ++ right.ranges⟩

/-- The members of any of the sets. -/
def unions (sets : List CharSet) : CharSet := ⟨sets.flatMap ranges⟩

/-- What is left of a range without the code points of another. -/
def cut (hole bounds : Nat × Nat) : List (Nat × Nat) :=
  if hole.2 < bounds.1 ∨ bounds.2 < hole.1 then [bounds]
  else
    (if bounds.1 < hole.1 then [(bounds.1, hole.1 - 1)] else []) ++
      (if hole.2 < bounds.2 then [(hole.2 + 1, bounds.2)] else [])

/-- The members of the left set that the right one does not have. -/
def difference (left right : CharSet) : CharSet :=
  ⟨right.ranges.foldl (fun pieces hole => pieces.flatMap (cut hole)) left.ranges⟩

/-- The characters that the set does not have. -/
def complement (set : CharSet) : CharSet := all.difference set

/-- The members of both sets. -/
def intersection (left right : CharSet) : CharSet :=
  left.difference (left.difference right)

/-- The members of one set that the other does not have. -/
def symmetricDifference (left right : CharSet) : CharSet :=
  (left.difference right).union (right.difference left)

/-- Puts a range into a sorted list of ranges, joining it with the last one if they touch. -/
def extend (sorted : List (Nat × Nat)) (bounds : Nat × Nat) : List (Nat × Nat) :=
  match sorted with
  | [] => [bounds]
  | last :: earlier =>
    if bounds.1 ≤ last.2 + 1 then (last.1, max last.2 bounds.2) :: earlier
    else bounds :: last :: earlier

/-- The set with its ranges sorted, and no two of them touching. -/
def normalized (set : CharSet) : CharSet :=
  ⟨((set.ranges.mergeSort fun one other => one.1 ≤ other.1).foldl extend []).reverse⟩

/-- Ranges that are sorted already are only joined. -/
theorem normalized_of_pairwise {set : CharSet}
    (sorted : set.ranges.Pairwise fun one other => decide (one.1 ≤ other.1) = true) :
    set.normalized = ⟨(set.ranges.foldl extend []).reverse⟩ := by
  rw [normalized, List.mergeSort_of_pairwise sorted]

/-! ## Tables -/

/-- The value of a hexadecimal digit; other characters count as zero. -/
def hexDigit (c : Char) : Nat :=
  if '0' ≤ c ∧ c ≤ '9' then c.toNat - '0'.toNat
  else if 'A' ≤ c ∧ c ≤ 'F' then c.toNat - 'A'.toNat + 10
  else if 'a' ≤ c ∧ c ≤ 'f' then c.toNat - 'a'.toNat + 10
  else 0

/-- The number that hexadecimal digits stand for. -/
def natOfHex (digits : List Char) : Nat :=
  digits.foldl (fun n c => 16 * n + hexDigit c) 0

/-- Reads one range, `low-high` or a single code point. -/
def rangeOfText (word : List Char) : Nat × Nat :=
  match Text.splitOn ['-'] word with
  | [low, high] => (natOfHex low, natOfHex high)
  | _ => (natOfHex word, natOfHex word)

/-- Reads ranges separated by spaces and line ends. -/
def ofText (table : String) : CharSet :=
  ⟨(Text.words table.toList).map rangeOfText⟩

/-! ## Members -/

theorem contains_union (left right : CharSet) (code : Nat) :
    (left.union right).contains code = (left.contains code || right.contains code) := by
  simp [contains, union, List.any_append]

theorem contains_all (c : Char) : all.contains c.toNat = true := by
  have valid : c.toNat < 0xD800 ∨ 0xDFFF < c.toNat ∧ c.toNat < 0x110000 := c.valid
  simp [contains, all, within]
  omega

theorem contains_single (c d : Char) : (single c).contains d.toNat = (d == c) := by
  rw [Bool.eq_iff_iff, beq_iff_eq, ← Char.toNat_inj]
  simp [contains, single, range, within]
  omega

/-- Cutting a hole into a range removes the members of the hole. -/
theorem any_cut (hole bounds : Nat × Nat) (code : Nat) :
    (cut hole bounds).any (within code) = (within code bounds && !within code hole) := by
  unfold cut
  rw [Bool.eq_iff_iff]
  split
  · simp [within]
    omega
  · split <;> split <;> simp [within] <;> omega

theorem any_flatMap_cut (hole : Nat × Nat) (pieces : List (Nat × Nat)) (code : Nat) :
    (pieces.flatMap (cut hole)).any (within code) =
      (pieces.any (within code) && !within code hole) := by
  induction pieces with
  | nil => simp
  | cons bounds pieces ih =>
    rw [List.flatMap_cons, List.any_append, any_cut, ih, List.any_cons, Bool.and_or_distrib_right]

theorem any_foldl_cut (holes pieces : List (Nat × Nat)) (code : Nat) :
    (holes.foldl (fun pieces hole => pieces.flatMap (cut hole)) pieces).any (within code) =
      (pieces.any (within code) && !holes.any (within code)) := by
  induction holes generalizing pieces with
  | nil => simp
  | cons hole holes ih =>
    rw [List.foldl_cons, ih, any_flatMap_cut, List.any_cons, Bool.not_or, Bool.and_assoc]

theorem contains_difference (left right : CharSet) (code : Nat) :
    (left.difference right).contains code = (left.contains code && !right.contains code) :=
  any_foldl_cut right.ranges left.ranges code

theorem contains_complement (set : CharSet) (code : Nat) :
    set.complement.contains code = (all.contains code && !set.contains code) :=
  contains_difference all set code

theorem contains_intersection (left right : CharSet) (code : Nat) :
    (left.intersection right).contains code = (left.contains code && right.contains code) := by
  rw [intersection, contains_difference, contains_difference]
  cases left.contains code <;> cases right.contains code <;> rfl

end CharSet

end CloudTemplate.Unicode

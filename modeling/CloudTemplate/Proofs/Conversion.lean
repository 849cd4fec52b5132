import CloudTemplate.Proofs.Rounding.Numbers
import CloudTemplate.Proofs.RoundTrip

/-!
# Documents as values and back

A document that becomes a value and a document again keeps its nulls, booleans and texts, the order
of its items and the keys of its objects with their order. Only its numbers are touched: a value has
no integers beyond 64 bits with a sign, and stores the larger ones, up to 64 bits without a sign, as
binary numbers (`Json.Number.stored`).

So the document comes back with its numbers replaced in this way, and it is the same document
exactly when it holds no such integer (`Value.toJson_ofJson`). A large integer is not only written
in another way then: it is rounded (`Json.Number.integer?_stored`), so that the largest of them,
`2 ^ 64 - 1`, comes back as `2 ^ 64` (`Value.not_toJson_ofJson`).
-/

set_option autoImplicit false

namespace CloudTemplate

namespace Json

/-! ## Numbers -/

namespace Number

/-- A number that a document can hold: an integer of 64 bits, or a finite number. -/
def Valid : Number → Prop
  | .integer n => Fits n
  | .real x => Decimal.isFinite x = true

/-- The number is an integer that needs the bit of the sign for its size. -/
def IsLarge : Number → Prop
  | .integer n => Int64.maxValue.toInt < n
  | .real _ => False

instance (n : Number) : Decidable n.Valid :=
  match n with
  | .integer n => inferInstanceAs (Decidable (-(Nat.pow 2 63 : Nat) ≤ n ∧ n < (Nat.pow 2 64 : Nat)))
  | .real x => inferInstanceAs (Decidable (Decimal.isFinite x = true))

instance (n : Number) : Decidable n.IsLarge :=
  match n with
  | .integer n => inferInstanceAs (Decidable (Int64.maxValue.toInt < n))
  | .real _ => inferInstanceAs (Decidable False)

/-- The number as a value stores it. -/
def stored : Number → Number
  | .integer n => if Int64.maxValue.toInt < n then .real (Float.ofInt n) else .integer n
  | .real x => .real x

theorem stored_eq_self_iff {n : Number} : n.stored = n ↔ ¬n.IsLarge := by
  cases n with
  | integer n =>
    change (if Int64.maxValue.toInt < n then real (Float.ofInt n) else integer n) = integer n ↔
      ¬Int64.maxValue.toInt < n
    constructor
    · intro same large
      rw [if_pos large] at same
      cases same
    · exact fun small => if_neg small
  | real x => exact iff_of_true rfl not_false

theorem represents_ofInt {n : Int} (fits : Fits n) :
    Rounding.Represents (Float.ofInt n) (Rounding.rounded n) := by
  obtain ⟨least, most⟩ := fits
  have least : -2 ^ 63 ≤ n := least
  have most : n < 2 ^ 64 := most
  exact Rounding.represents_ofInt (by omega)

/-- A large integer is rounded when it is stored. -/
theorem integer?_stored {n : Int} (fits : Fits n) (large : (integer n).IsLarge) :
    ∃ x, (integer n).stored = .real x ∧ Decimal.integer? x = some (Rounding.rounded n) :=
  ⟨_, if_pos large, Decimal.integer?_of_represents (represents_ofInt fits)⟩

end Number

/-! ## Numbers of a document -/

mutual
/-- The numbers in a document, in their order. -/
def numbers : Json → List Number
  | .number n => [n]
  | .array items => numbersOfItems items
  | .object entries => numbersOfEntries entries
  | _ => []

/-- The numbers in the items. -/
def numbersOfItems : List Json → List Number
  | [] => []
  | item :: items => numbers item ++ numbersOfItems items

/-- The numbers at the keys. -/
def numbersOfEntries : List (String × Json) → List Number
  | [] => []
  | (_, child) :: entries => numbers child ++ numbersOfEntries entries
end

mutual
/-- The document with its numbers replaced. -/
def mapNumbers (replace : Number → Number) : Json → Json
  | .number n => .number (replace n)
  | .array items => .array (mapNumbersOfItems replace items)
  | .object entries => .object (mapNumbersOfEntries replace entries)
  | other => other

/-- The items with their numbers replaced. -/
def mapNumbersOfItems (replace : Number → Number) : List Json → List Json
  | [] => []
  | item :: items => mapNumbers replace item :: mapNumbersOfItems replace items

/-- The entries with their numbers replaced. -/
def mapNumbersOfEntries (replace : Number → Number) : List (String × Json) → List (String × Json)
  | [] => []
  | (key, child) :: entries =>
    (key, mapNumbers replace child) :: mapNumbersOfEntries replace entries
end

section Replacing

variable {replace : Number → Number}

mutual

/-- A document stays the same exactly when all of its numbers do. -/
theorem mapNumbers_eq_self_iff : ∀ document : Json,
    document.mapNumbers replace = document ↔ ∀ n ∈ document.numbers, replace n = n
  | .null | .bool _ | .string _ => iff_of_true rfl (List.forall_mem_nil _)
  | .number n => by simp [mapNumbers, numbers]
  | .array items => by
    rw [mapNumbers, numbers, Json.array.injEq]
    exact mapNumbersOfItems_eq_self_iff items
  | .object entries => by
    rw [mapNumbers, numbers, Json.object.injEq]
    exact mapNumbersOfEntries_eq_self_iff entries

theorem mapNumbersOfItems_eq_self_iff : ∀ items : List Json,
    mapNumbersOfItems replace items = items ↔ ∀ n ∈ numbersOfItems items, replace n = n
  | [] => iff_of_true rfl (List.forall_mem_nil _)
  | item :: items => by
    rw [mapNumbersOfItems, numbersOfItems, List.cons.injEq, List.forall_mem_append,
      mapNumbers_eq_self_iff item, mapNumbersOfItems_eq_self_iff items]

theorem mapNumbersOfEntries_eq_self_iff : ∀ entries : List (String × Json),
    mapNumbersOfEntries replace entries = entries ↔
      ∀ n ∈ numbersOfEntries entries, replace n = n
  | [] => iff_of_true rfl (List.forall_mem_nil _)
  | (key, child) :: entries => by
    rw [mapNumbersOfEntries, numbersOfEntries, List.cons.injEq, List.forall_mem_append,
      Prod.mk.injEq, mapNumbers_eq_self_iff child, mapNumbersOfEntries_eq_self_iff entries]
    simp only [true_and]

end

end Replacing

end Json

/-! ## There and back -/

namespace Value

theorem toJson_ofJsonNumber {n : Json.Number} (valid : n.Valid) :
    (ofJsonNumber n).toJson = .number n.stored := by
  cases n with
  | integer n =>
    obtain ⟨least, -⟩ := id valid
    have least : Int64.minValue.toInt ≤ n := least
    unfold ofJsonNumber Json.Number.stored
    dsimp only
    by_cases large : Int64.maxValue.toInt < n
    · have beyond : ¬(Int64.minValue.toInt ≤ n ∧ n ≤ Int64.maxValue.toInt) := by omega
      have finite := Decimal.isFinite_of_represents (Json.Number.represents_ofInt valid)
      rw [if_pos large, if_neg beyond, toJson, if_pos finite]
    · have within : Int64.minValue.toInt ≤ n ∧ n ≤ Int64.maxValue.toInt := by omega
      have most : Int64.maxValue.toInt < 2 ^ 63 := Int64.toInt_lt _
      rw [if_neg large, if_pos within, toJson, Int64.toInt_ofInt_of_le least (by omega)]
  | real x =>
    change (if Decimal.isFinite x = true then Json.number (.real x) else .null) = _
    exact if_pos valid

mutual

/-- Only the numbers of a document are touched. -/
theorem toJson_ofJson_eq_mapNumbers : ∀ {document : Json}, (∀ n ∈ document.numbers, n.Valid) →
    (ofJson document).toJson = document.mapNumbers Json.Number.stored
  | .null, _ | .bool _, _ | .string _, _ => rfl
  | .number n, valid => toJson_ofJsonNumber (valid n List.mem_cons_self)
  | .array _, valid => congrArg Json.array (toJsonItems_ofJsonItems valid)
  | .object _, valid => congrArg Json.object (toJsonEntries_ofJsonEntries valid)

theorem toJsonItems_ofJsonItems : ∀ {items : List Json},
    (∀ n ∈ Json.numbersOfItems items, n.Valid) →
      toJsonItems (ofJsonItems items) = Json.mapNumbersOfItems Json.Number.stored items
  | [], _ => rfl
  | item :: items, valid => by
    rw [Json.numbersOfItems, List.forall_mem_append] at valid
    rw [ofJsonItems, toJsonItems, Json.mapNumbersOfItems, toJson_ofJson_eq_mapNumbers valid.1,
      toJsonItems_ofJsonItems valid.2]

theorem toJsonEntries_ofJsonEntries : ∀ {entries : List (String × Json)},
    (∀ n ∈ Json.numbersOfEntries entries, n.Valid) →
      toJsonEntries (ofJsonEntries entries) = Json.mapNumbersOfEntries Json.Number.stored entries
  | [], _ => rfl
  | (key, child) :: entries, valid => by
    rw [Json.numbersOfEntries, List.forall_mem_append] at valid
    rw [ofJsonEntries, toJsonEntries, Json.mapNumbersOfEntries,
      toJson_ofJson_eq_mapNumbers valid.1, toJsonEntries_ofJsonEntries valid.2]

end

/-- **A document comes back with its large integers as binary numbers**, and is the same otherwise.
So it comes back as it was exactly when there are no large integers in it. -/
theorem toJson_ofJson {document : Json} (valid : ∀ n ∈ document.numbers, n.Valid) :
    (ofJson document).toJson = document.mapNumbers Json.Number.stored ∧
      ((ofJson document).toJson = document ↔ ∀ n ∈ document.numbers, ¬n.IsLarge) := by
  have back := toJson_ofJson_eq_mapNumbers valid
  refine ⟨back, ?_⟩
  rw [back, Json.mapNumbers_eq_self_iff]
  exact forall₂_congr fun n _ => Json.Number.stored_eq_self_iff

/-- Limits around the largest integer with a sign. -/
def limits (largest : Int) : Json :=
  .object [("Name", .string "limits"), ("Range", .array [.null, .number (.integer largest)])]

/-- The largest integer with a sign comes back, and the next one becomes a binary number. -/
theorem toJson_ofJson_limits :
    (ofJson (limits 9223372036854775807)).toJson = limits 9223372036854775807 ∧
      (ofJson (limits 9223372036854775808)).toJson =
        .object [("Name", .string "limits"),
          ("Range", .array [.null, .number (.real (Float.ofInt 9223372036854775808))])] := by
  constructor
  · exact (toJson_ofJson (by decide)).2.2 (by decide)
  · exact (toJson_ofJson (by decide)).1

/-- **The conversion of documents loses large integers**: the largest integer of 64 bits comes back
as a binary number, which is larger by one. -/
theorem not_toJson_ofJson :
    (¬∀ document : Json, (∀ n ∈ document.numbers, n.Valid) → (ofJson document).toJson = document) ∧
      ∃ x, (ofJson (.number (.integer 18446744073709551615))).toJson = .number (.real x) ∧
        Decimal.integer? x = some 18446744073709551616 := by
  have valid : (Json.Number.integer 18446744073709551615).Valid := by decide
  obtain ⟨x, replaced, rounded⟩ := Json.Number.integer?_stored valid (by decide)
  have back := (toJson_ofJsonNumber valid).trans (congrArg Json.number replaced)
  refine ⟨fun lossless => ?_, x, back, rounded⟩
  have same := lossless (.number (.integer 18446744073709551615)) (by decide)
  rw [ofJson, back] at same
  cases same

end Value

end CloudTemplate

import CloudTemplate.Entries
import CloudTemplate.Decimal.Binary

/-!
# Template values

All content of a template is a value: nothing, a boolean, a number, a text, a list of values
or a map from keys to values. Integers have 64 bits. A map keeps its keys in their order.

A computed number becomes an integer when it is whole and fits (`Value.ofNumber`).
-/

set_option autoImplicit false

namespace CloudTemplate

/-- The content of a template. -/
inductive Value where
  | null
  | bool (b : Bool)
  | int (n : Int64)
  | float (x : Float)
  | string (s : String)
  | list (items : List Value)
  | map (entries : List (String × Value))

namespace Value

instance : Inhabited Value := ⟨.null⟩

/-- The name of the kind of a value. -/
def typeName : Value → String
  | .null => "null"
  | .bool _ => "boolean"
  | .int _ => "integer"
  | .float _ => "float"
  | .string _ => "string"
  | .list _ => "list"
  | .map _ => "map"

/-! ## Parts -/

/-- Whether the value is nothing. -/
def isNull : Value → Bool
  | .null => true
  | _ => false

/-- The text of a text value. -/
def asString? : Value → Option String
  | .string s => some s
  | _ => none

/-- The boolean of a boolean value. -/
def asBool? : Value → Option Bool
  | .bool b => some b
  | _ => none

/-- The number of a numeric value. An integer is rounded to the nearest binary number. -/
def asFloat? : Value → Option Float
  | .int n => some (Float.ofInt n.toInt)
  | .float x => some x
  | _ => none

/-- The items of a list. -/
def asList? : Value → Option (List Value)
  | .list items => some items
  | _ => none

/-- The entries of a map. -/
def asMap? : Value → Option (Entries Value)
  | .map entries => some entries
  | _ => none

/-- The value at a key of a map; other values have no keys. -/
def get? (value : Value) (key : String) : Option Value :=
  match value with
  | .map entries => Entries.get? entries key
  | _ => none

/-! ## Numbers -/

/-- The value of a computed number: an integer if it is whole and fits 64 bits, and the number
itself otherwise. -/
def ofNumber (x : Float) : Value :=
  match Decimal.integer? x with
  | some n =>
    if Int64.minValue.toInt ≤ n ∧ n ≤ Int64.maxValue.toInt then .int (Int64.ofInt n) else .float x
  | none => .float x

/-! ## Truth -/

/-- The truth of a value, if it has one: booleans stand for themselves, numbers are true unless
they are zero, and five spellings each say true and false. -/
def toBool? : Value → Option Bool
  | .bool b => some b
  | .int n => some (n != 0)
  | .float x => some (x != 0.0)
  | .string s =>
    if s ∈ ["true", "True", "TRUE", "1"] then some true
    else if s ∈ ["false", "False", "FALSE", "0", ""] then some false
    else none
  | _ => none

/-! ## Height -/

mutual
/-- How many values stand inside each other: one for a scalar, and one more than the highest
child for a list or a map. -/
def height : Value → Nat
  | .list items => heightOfItems items + 1
  | .map entries => heightOfEntries entries + 1
  | _ => 1

/-- The height of the highest item, zero if there is none. -/
def heightOfItems : List Value → Nat
  | [] => 0
  | item :: items => max (height item) (heightOfItems items)

/-- The height of the highest child, zero if there is none. -/
def heightOfEntries : List (String × Value) → Nat
  | [] => 0
  | (_, child) :: entries => max (height child) (heightOfEntries entries)
end

/-! ## Well-formed values -/

mutual
/-- No map in the value has a key twice. -/
def DistinctKeys : Value → Prop
  | .list items => DistinctKeysOfItems items
  | .map entries => Entries.Distinct entries ∧ DistinctKeysOfEntries entries
  | _ => True

/-- No map in any of the items has a key twice. -/
def DistinctKeysOfItems : List Value → Prop
  | [] => True
  | item :: items => DistinctKeys item ∧ DistinctKeysOfItems items

/-- No map in any of the children has a key twice. -/
def DistinctKeysOfEntries : List (String × Value) → Prop
  | [] => True
  | (_, child) :: entries => DistinctKeys child ∧ DistinctKeysOfEntries entries
end

theorem distinctKeysOfItems_iff (items : List Value) :
    DistinctKeysOfItems items ↔ ∀ item ∈ items, DistinctKeys item := by
  induction items with
  | nil => simp [DistinctKeysOfItems]
  | cons item items ih => simp [DistinctKeysOfItems, ih]

theorem distinctKeysOfEntries_iff (entries : List (String × Value)) :
    DistinctKeysOfEntries entries ↔ ∀ entry ∈ entries, DistinctKeys entry.2 := by
  induction entries with
  | nil => simp [DistinctKeysOfEntries]
  | cons entry entries ih => simp [DistinctKeysOfEntries, ih]

theorem heightOfItems_le_iff (items : List Value) (bound : Nat) :
    heightOfItems items ≤ bound ↔ ∀ item ∈ items, height item ≤ bound := by
  induction items with
  | nil => simp [heightOfItems]
  | cons item items ih => rw [heightOfItems, Nat.max_le, ih, List.forall_mem_cons]

theorem heightOfEntries_le_iff (entries : List (String × Value)) (bound : Nat) :
    heightOfEntries entries ≤ bound ↔ ∀ entry ∈ entries, height entry.2 ≤ bound := by
  induction entries with
  | nil => simp [heightOfEntries]
  | cons entry entries ih => rw [heightOfEntries, Nat.max_le, ih, List.forall_mem_cons]

end Value

end CloudTemplate

import CloudTemplate.Value.Basic

/-!
# Equality of values

Values of different kinds are different, except that an integer equals the binary number
nearest to it. Lists are compared item by item. Maps are compared key by key, whatever the
order of their keys: they are equal when they have equally many entries and every key of the
first has an equal value in the second.
-/

set_option autoImplicit false

namespace CloudTemplate.Value

mutual
/-- Whether two values are equal. -/
def equal : Value → Value → Bool
  | .null, .null => true
  | .bool a, .bool b => a == b
  | .int a, .int b => a == b
  | .float a, .float b => a == b
  | .int a, .float b => Float.ofInt a.toInt == b
  | .float a, .int b => Float.ofInt b.toInt == a
  | .string a, .string b => a == b
  | .list a, .list b => equalItems a b
  | .map a, .map b => a.length == b.length && entriesIn a b
  | _, _ => false

/-- Whether two lists have equal items at equal places. -/
def equalItems : List Value → List Value → Bool
  | [], [] => true
  | a :: items, b :: others => equal a b && equalItems items others
  | _, _ => false

/-- Whether every key has an equal value in the other map. -/
def entriesIn : List (String × Value) → List (String × Value) → Bool
  | [], _ => true
  | (key, a) :: entries, others =>
    (match Entries.get? others key with
      | some b => equal a b
      | none => false) && entriesIn entries others
end

instance : BEq Value := ⟨equal⟩

end CloudTemplate.Value

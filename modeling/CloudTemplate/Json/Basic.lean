import CloudTemplate.Entries

/-!
# Documents

A JSON document as it is read: objects keep the order of their keys, and a number knows
whether it was written as an integer.

A text may repeat a key. `Json.object` can hold the repetition, because some readers must
refuse it; `Json.settled` keeps the last value of each key at the key's first place.
-/

set_option autoImplicit false

namespace CloudTemplate

/-- A number of a document: an integer between `-2 ^ 63` and `2 ^ 64 - 1`, or a binary number. -/
inductive Json.Number where
  | integer (n : Int)
  | real (x : Float)

/-- A document. -/
inductive Json where
  | null
  | bool (b : Bool)
  | number (n : Json.Number)
  | string (s : String)
  | array (items : List Json)
  | object (entries : List (String × Json))

namespace Json

instance : Inhabited Json := ⟨.null⟩

mutual
/-- The document in which every key of an object occurs once, at its first place and with its
last value. -/
def settled : Json → Json
  | .array items => .array (settledItems items)
  | .object entries => .object (settledEntries entries [])
  | scalar => scalar

/-- Settles each item. -/
def settledItems : List Json → List Json
  | [] => []
  | item :: items => settled item :: settledItems items

/-- Puts the settled entries one after the other into those collected so far. -/
def settledEntries : List (String × Json) → List (String × Json) → List (String × Json)
  | [], collected => collected
  | (key, value) :: entries, collected =>
    settledEntries entries (Entries.insert key (settled value) collected)
end

/-- The value of a key of an object, the last one if the key is repeated. -/
def field? (document : Json) (key : String) : Option Json :=
  match document with
  | .object entries => Entries.get? entries.reverse key
  | _ => none

end Json

end CloudTemplate

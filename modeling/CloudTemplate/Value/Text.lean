import CloudTemplate.Value.Document
import CloudTemplate.Json.Writer

/-!
# The text of a value

The text that a value contributes when a function builds a text from it. Nothing is the empty
text, texts stand for themselves, numbers are written positionally, and lists and maps are
written as compact documents.
-/

set_option autoImplicit false

namespace CloudTemplate.Value

/-- The compact document of a value. -/
def json (value : Value) : String :=
  value.toJson.compact

/-- The text of a value. -/
def text : Value → String
  | .null => ""
  | .bool b => if b then "true" else "false"
  | .int n => toString n.toInt
  | .float x => Decimal.text x
  | .string s => s
  | .list items => json (.list items)
  | .map entries => json (.map entries)

end CloudTemplate.Value

import CloudTemplate.Function.Signature
import CloudTemplate.Value.Equality
import CloudTemplate.Text.Blank
import CloudTemplate.Decimal.Reader

/-!
# Functions on lists

An index is an integer, a number without its fraction, or a text that starts with an integer
after blanks. An index outside the list is an error.
-/

set_option autoImplicit false

namespace CloudTemplate.Collection

/-- The sign at the start of a text, and the text after it. -/
def signed : List Char → Bool × List Char
  | '-' :: text => (true, text)
  | '+' :: text => (false, text)
  | text => (false, text)

/-- The integer at the start of a text after blanks, if there is one and it has 64 bits. -/
def leadingInteger? (text : List Char) : Option Int64 :=
  let (negative, text) := signed (Text.trimStart text)
  let (digits, _) := Decimal.spanDigits text
  if digits = [] then none
  else
    let magnitude : Int := Decimal.natOfDigits digits
    let n := if negative then -magnitude else magnitude
    if Int64.minValue.toInt ≤ n ∧ n ≤ Int64.maxValue.toInt then some (Int64.ofInt n) else none

/-- The index that a value stands for. -/
def toIndex (call : Invocation) (value : Value) : Program Int64 :=
  match value with
  | .int n => pure n
  | .float x => pure (Decimal.truncateToInt64 x)
  | .string s =>
    match leadingInteger? s.toList with
    | some n => pure n
    | none => call.refuse (.invalidIndex s)
  | other => call.refuseType "index" "a number" other

/-- The item at an index. -/
def itemAt? (items : List Value) (index : Int64) : Option Value :=
  if index < 0 then none else items[index.toInt.toNat]?

/-- The item of a list at an index. The index is resolved and read before the list. -/
def select : Function := fun call => do
  let (index, list) ← call.twoArguments
  call.known index fun index => do
    let index ← toIndex call index
    call.known list fun list => do
      let items ← call.expectList "list" list
      match itemAt? items index with
      | some item => pure item
      | none => .fail (.indexOutOfBounds call.key index items.length)

/-- The place of the first item equal to a value, or -1. -/
def index : Function := fun call => do
  let arguments ← call.twoArguments
  call.bothKnown arguments fun list value => do
    let items ← call.expectList "list" list
    match items.findIdx? fun item => item == value with
    | some place => pure (.int (Int64.ofNat place))
    | none => pure (.int (-1))

/-- The number of characters of a text or of items of a list. -/
def length : Function := fun call => do
  let argument ← call.oneArgument
  call.known argument fun value =>
    match value with
    | .string s => pure (.int (Int64.ofNat s.length))
    | .list items => pure (.int (Int64.ofNat items.length))
    | other => call.refuseType "value" "a string or list" other

/-- Resolves lists one after the other and appends them to the items collected so far. -/
def appendLists (call : Invocation) (collected : List Value) : List Value → Program Value
  | [] => pure (.list collected)
  | argument :: arguments =>
    call.known argument fun value => do
      let items ← call.expectList "element" value
      appendLists call (collected ++ items) arguments

/-- The concatenation of lists. -/
def listMerge : Function := fun call => do
  let arguments ← call.argumentList
  appendLists call [] arguments

/-- The values at a key of maps; nothing where a map does not have the key. -/
def project (call : Invocation) (key : String) : List Value → Program (List Value)
  | [] => pure []
  | .map entries :: items => do
    let others ← project call key items
    pure ((Entries.get? entries key).getD .null :: others)
  | other :: _ => call.refuseType "maps" "a list of maps" other

/-- The values at a key of all maps of a list. -/
def selectMapList : Function := fun call => do
  let arguments ← call.twoArguments
  call.bothKnown arguments fun key maps => do
    let key ← call.expectText "key" key
    let items ← call.expectList "maps" maps
    let values ← project call key items
    pure (.list values)

/-- The functions on lists. -/
def definitions : List Definition := [
  { signature := {
      name := "Select"
      category := .collection
      description := "Returns the list element at a zero-based index. The index may be an " ++
        "integer, a float or a numeric string; a negative or out-of-range index is an error."
      parameters := [
        ⟨"index", some "integer", "Zero-based position"⟩,
        ⟨"list", some "list", "List to select from"⟩]
      returnType := some "any"
      examples := ["\x7b\"Fn::Select\": [\"1\", [\"cn-hangzhou-a\", \"cn-hangzhou-b\"]]\x7d"] }
    function := select },
  { signature := {
      name := "Index"
      category := .collection
      description := "Position of the first element equal to the value, or -1"
      parameters := [
        ⟨"list", some "list", "List to search"⟩,
        ⟨"value", none, "Value to look for"⟩]
      returnType := some "integer"
      examples := ["\x7b\"Fn::Index\": [[\"a\", \"b\"], \"b\"]\x7d"] }
    function := index },
  { signature := {
      name := "Length"
      category := .collection
      description := "Number of characters in a string or elements in a list"
      parameters := [
        ⟨"value", some "string | list", "Value to measure, wrapped in a one-element list"⟩]
      returnType := some "integer"
      examples := [
        "\x7b\"Fn::Length\": [\"hello\"]\x7d",
        "\x7b\"Fn::Length\": [[1, 2, 3]]\x7d"] }
    function := length },
  { signature := {
      name := "ListMerge"
      category := .collection
      description := "Concatenates a list of lists, preserving order"
      parameters := [⟨"lists", some "list<list>", "Lists to concatenate"⟩]
      returnType := some "list"
      examples := ["\x7b\"Fn::ListMerge\": [[1, 2], [3]]\x7d"] }
    function := listMerge },
  { signature := {
      name := "SelectMapList"
      category := .collection
      description := "Projects one key out of every map in a list; maps without the key yield " ++
        "null"
      parameters := [
        ⟨"key", some "string", "Key to extract"⟩,
        ⟨"maps", some "list<map>", "Maps to project"⟩]
      returnType := some "list"
      examples := [
        "\x7b\"Fn::SelectMapList\": [\"Id\", [\x7b\"Id\": \"a\"\x7d, \x7b\"Id\": \"b\"\x7d]]\x7d"] }
    function := selectMapList }]

end CloudTemplate.Collection

import CloudTemplate.Function.Signature
import CloudTemplate.Value.Document
import CloudTemplate.Value.Text

/-!
# Functions on maps

Looking up a table of the template, taking one key out of a document, and merging lists of maps
place by place. What is not found keeps its call.
-/

set_option autoImplicit false

namespace CloudTemplate.Mapping

/-- The section of a template that holds its tables. -/
def tablesSection : String := "Mappings"

/-- The entry of a table of the template. -/
def entry? (template : Value) (table outer inner : String) : Option Value := do
  let tables ← template.get? tablesSection
  let rows ← tables.get? table
  let row ← rows.get? outer
  row.get? inner

/-- The entry of a table at two keys, resolved in turn. -/
def findInMap : Function := fun call => do
  let (table, outer, inner) ← call.threeArguments
  call.known table fun table => call.known outer fun outer => call.known inner fun inner => do
    let table ← call.expectText "map" table
    match entry? call.scope.template table outer.text inner.text with
    | some value => Program.resolved value
    | none =>
      Program.noting
        (call.key ++ ": no entry " ++ table ++ "/" ++ outer.text ++ "/" ++ inner.text) call.node

/-- The value at a key of the object that a text describes. -/
def getJsonValue : Function := fun call => do
  let arguments ← call.twoArguments
  call.bothKnown arguments fun key document => do
    let key ← call.expectText "key" key
    let text ← call.expectText "json" document
    match Json.read text with
    | .error fault => .fail (.invalidJson call.key fault)
    | .ok (.object entries) =>
      match Entries.get? entries key with
      | some value => pure (Value.ofJson value)
      | none => call.keep
    | .ok _ => .fail (.invalidType call.key "json" "a JSON object" "another JSON value")

/-- Why lists cannot be merged. -/
inductive Obstacle where
  /-- An item is not known yet. -/
  | unknown
  | error (error : Error)

/-- Merges an item into the map at its place. -/
def mergeItem (call : Invocation) (target : Entries Value) (item : Value) :
    Except Obstacle (Entries Value) :=
  if call.isCall item then .error .unknown
  else match item with
    | .map entries => .ok (target.merge entries)
    | other => .error (.error (.invalidType call.key "lists" "lists of maps" other.typeName))

/-- Merges items into the maps at their places. -/
def mergeItems (call : Invocation) : List (Entries Value) → List Value →
    Except Obstacle (List (Entries Value))
  | target :: targets, item :: items => do
    let target ← mergeItem call target item
    let targets ← mergeItems call targets items
    .ok (target :: targets)
  | targets, _ => .ok targets

/-- The items of a list that is to be merged. -/
def mergeable (call : Invocation) (list : Value) : Except Obstacle (List Value) :=
  match list with
  | .list items => .ok items
  | other => .error (.error (.invalidType call.key "lists" "a list of lists" other.typeName))

/-- Merges lists, one after the other, into the maps collected so far. -/
def mergeLists (call : Invocation) (merged : List (Entries Value)) : List Value →
    Except Obstacle (List (Entries Value))
  | [] => .ok merged
  | list :: lists => do
    let items ← mergeable call list
    if items.length ≠ merged.length then
      .error (.error
        (.invalidArguments call.key (.unequalLengths merged.length items.length)))
    else
      let merged ← mergeItems call merged items
      mergeLists call merged lists

/-- Merges lists of maps place by place. The first list decides how many maps there are. -/
def merge (call : Invocation) (lists : List Value) : Except Obstacle (List (Entries Value)) := do
  match lists with
  | [] => .ok []
  | first :: _ =>
    let items ← mergeable call first
    mergeLists call (items.map fun _ => []) lists

/-- Merges lists of maps of equal length place by place; later lists override earlier ones. -/
def mergeMapToList : Function := fun call => do
  let arguments ← call.argumentList
  call.allKnown arguments fun lists =>
    match merge call lists with
    | .ok merged => pure (.list (merged.map .map))
    | .error .unknown => call.keep
    | .error (.error error) => .fail error

/-- The functions on maps. -/
def definitions : List Definition := [
  { signature := {
      name := "FindInMap"
      category := .mapping
      description :=
        "Two-level lookup into a table of the template's Mappings section. A missing " ++
        "table or key leaves the call unresolved."
      parameters := [
        ⟨"map", some "string", "Mapping name"⟩,
        ⟨"top_level_key", some "string", "Outer key"⟩,
        ⟨"second_level_key", some "string", "Inner key"⟩]
      returnType := some "any"
      examples := [
        "\x7b\"Fn::FindInMap\": [\"RegionMap\", \x7b\"Ref\": \"Region\"\x7d, \"ImageId\"]\x7d"] }
    function := findInMap },
  { signature := {
      name := "GetJsonValue"
      category := .mapping
      description :=
        "Parses a JSON object and returns the value of one key. A missing key leaves " ++
        "the call unresolved."
      parameters := [
        ⟨"key", some "string", "Key to extract"⟩,
        ⟨"json", some "string", "JSON object text"⟩]
      returnType := some "any"
      examples := [
        "\x7b\"Fn::GetJsonValue\": [\"host\", \"\x7b\\\"host\\\": \\\"db.local\\\"\x7d\"]\x7d"] }
    function := getJsonValue },
  { signature := {
      name := "MergeMapToList"
      category := .mapping
      description :=
        "Merges equally long lists of maps position by position. Later lists override " ++
        "keys of earlier ones."
      parameters := [⟨"lists", some "list<list<map>>", "Lists of maps to merge"⟩]
      returnType := some "list<map>"
      examples := ["\x7b\"Fn::MergeMapToList\": [[\x7b\"a\": 1\x7d], [\x7b\"b\": 2\x7d]]\x7d"] }
    function := mergeMapToList }]

end CloudTemplate.Mapping

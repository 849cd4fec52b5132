import CloudTemplate.Function.Substitution
import CloudTemplate.Pattern.Match
import CloudTemplate.Decimal.Binary

/-!
# Functions on texts

They turn values into texts with `Value.text`. A value that is a call is never turned into text:
the function keeps its own call instead. The values of which whole texts are made, the parts of a
joined list and the new texts of a replacement are also searched for calls inside them; delimiters
and the texts that are split, indented, rewritten or matched are not.
-/

set_option autoImplicit false

namespace CloudTemplate.Strings

/-- Concatenates the texts of a list with a delimiter between them. -/
def join : Function := fun call => do
  let arguments ← call.twoArguments
  call.bothKnown arguments fun delimiter list => do
    let parts ← call.expectList "values" list
    if parts.any call.containsCall then call.keep
    else
      let texts := parts.map fun part => part.text.toList
      pure (.string (String.ofList (Text.intercalate delimiter.text.toList texts)))

/-- Splits a text at a delimiter, or into its characters if the delimiter is empty. -/
def split : Function := fun call => do
  let arguments ← call.twoArguments
  call.bothKnown arguments fun delimiter source => do
    let delimiter ← call.expectText "delimiter" delimiter
    let text := source.text.toList
    let parts :=
      if delimiter = "" then text.map fun c => [c] else Text.splitOn delimiter.toList text
    pure (.list (parts.map fun part => .string (String.ofList part)))

/-- The encoding of the text of a value. -/
def base64Encode : Function := fun call => do
  let value ← Program.resolved call.arguments
  call.unlessCall value (pure (.string (Base64.encodeText value.text)))

/-- The text that an encoding holds. -/
def base64Decode : Function := fun call =>
  call.known call.arguments fun value => do
    let encoded ← call.expectText "value" value
    match Base64.decodeText encoded with
    | .ok text => pure (.string text)
    | .error fault => .fail (.invalidBase64 call.key fault)

/-- The text of a value. -/
def str : Function := fun call => do
  let value ← Program.resolved call.arguments
  call.unlessCall value (pure (.string value.text))

/-- The number of spaces to indent by, which is no number below zero. -/
def indentCount (call : Invocation) (value : Value) : Program Nat := do
  let count ← match value with
    | .int n => pure n
    | .float x => pure (Decimal.truncateToInt64 x)
    | other => call.refuseType "count" "a number" other
  if count < 0 then call.refuse (.negativeIndent count) else pure count.toInt.toNat

/-- Puts spaces in front of every line of a text. -/
def indentLines (count : Nat) (text : List Char) : List Char :=
  let spaces := List.replicate count ' '
  Text.intercalate ['\n'] ((Text.splitOn ['\n'] text).map fun line => spaces ++ line)

/-- A number of bytes, if 64 bits can hold it. -/
def counted? (size : Nat) : Option Nat :=
  if size < Nat.pow 2 64 then some size else none

/-- The size in bytes of a text whose lines are indented, if it and the spaces can be counted. -/
def indentedSize? (count : Nat) (text : List Char) : Option Nat := do
  let padding ← counted? (count * (Text.splitOn ['\n'] text).length)
  counted? (padding + Text.utf8Size text)

/-- Indents every line of a text, if the result is not too long. -/
def indent : Function := fun call => do
  let arguments ← call.twoArguments
  call.bothKnown arguments fun count source => do
    let count ← indentCount call count
    let text := source.text.toList
    let limit := call.scope.config.maxStringLength
    if (indentedSize? count text).all (limit < ·) then call.refuse (.indentTooLong count limit)
    else pure (.string (String.ofList (indentLines count text)))

/-- Replaces every key of a map by the text of its value, one key after the other. -/
def replaceInOrder (replacements : Entries Value) (text : List Char) : List Char :=
  replacements.foldl
    (fun text entry => Text.replaceAll entry.1.toList entry.2.text.toList text) text

/-- Replaces texts by others in a text. -/
def replace : Function := fun call => do
  let arguments ← call.twoArguments
  call.bothKnown arguments fun replacements source => do
    let replacements ← call.expectMap "replacements" replacements
    if replacements.any fun entry => call.containsCall entry.2 then call.keep
    else pure (.string (String.ofList (replaceInOrder replacements source.text.toList)))

/-- Whether a pattern matches somewhere in a text. -/
def matchPattern : Function := fun call => do
  let arguments ← call.twoArguments
  call.bothKnown arguments fun pattern source => do
    let text ← call.expectText "pattern" pattern
    let pattern ← Program.compiled call.key text
    pure (.bool (pattern.isMatch source.text))

/-- The functions on texts. -/
def definitions : List Definition := [
  { signature := {
      name := "Join"
      category := .string
      description := "Concatenates the elements of a list, separated by the delimiter"
      parameters := [
        ⟨"delimiter", some "string", "Separator placed between elements"⟩,
        ⟨"values", some "list", "Elements to join"⟩]
      returnType := some "string"
      examples := ["\x7b\"Fn::Join\": [\",\", [\"a\", \"b\", \"c\"]]\x7d"] }
    function := join },
  { signature := {
      name := "Split"
      category := .string
      description := "Splits a string on every occurrence of the delimiter. An empty delimiter " ++
        "splits into characters."
      parameters := [
        ⟨"delimiter", some "string", "Separator"⟩,
        ⟨"source", some "string", "String to split"⟩]
      returnType := some "list<string>"
      examples := ["\x7b\"Fn::Split\": [\";\", \"a;b;c\"]\x7d"] }
    function := split },
  { signature := {
      name := "Sub"
      category := .string
      description := "Substitutes $\x7bName\x7d tokens from inline variables and parameters; " ++
        "$\x7b!Name\x7d yields $\x7bName\x7d literally. If any token refers to a pseudo " ++
        "parameter, a resource attribute or an unknown name, the whole call is left unresolved."
      parameters := [
        ⟨"template", some "string", "Text with $\x7bName\x7d tokens"⟩,
        ⟨"variables", some "map",
          "Optional inline variables, taking precedence over parameters"⟩]
      returnType := some "string"
      examples := [
        "\x7b\"Fn::Sub\": \"$\x7bPrefix\x7d-vpc\"\x7d",
        "\x7b\"Fn::Sub\": [\"$\x7bName\x7d-$\x7bSuffix\x7d\", \x7b\"Suffix\": \"prod\"\x7d]\x7d"] }
    function := Substitution.sub },
  { signature := {
      name := "Base64Encode"
      category := .string
      description := "Standard Base64 encoding of the value's text"
      parameters := [⟨"value", none, "Value to encode"⟩]
      returnType := some "string"
      examples := ["\x7b\"Fn::Base64Encode\": \"hello\"\x7d"] }
    function := base64Encode },
  { signature := {
      name := "Base64Decode"
      category := .string
      description := "Decodes a standard Base64 string into UTF-8 text"
      parameters := [⟨"value", some "string", "Base64 payload"⟩]
      returnType := some "string"
      examples := ["\x7b\"Fn::Base64Decode\": \"aGVsbG8=\"\x7d"] }
    function := base64Decode },
  { signature := {
      name := "Str"
      category := .string
      description := "Converts a value to its string form"
      parameters := [⟨"value", none, "Value to convert"⟩]
      returnType := some "string"
      examples := ["\x7b\"Fn::Str\": 8080\x7d"] }
    function := str },
  { signature := {
      name := "Indent"
      category := .string
      description := "Prefixes every line of the text with the given number of spaces"
      parameters := [
        ⟨"count", some "integer", "Number of spaces"⟩,
        ⟨"text", some "string", "Text to indent"⟩]
      returnType := some "string"
      examples := ["\x7b\"Fn::Indent\": [4, \"line1\\nline2\"]\x7d"] }
    function := indent },
  { signature := {
      name := "Replace"
      category := .string
      description :=
        "Replaces every literal occurrence of each key with its value, applying the " ++
        "replacements in order"
      parameters := [
        ⟨"replacements", some "map", "Old text to new text"⟩,
        ⟨"source", some "string", "Text to rewrite"⟩]
      returnType := some "string"
      examples := ["\x7b\"Fn::Replace\": [\x7b\"$ENV\": \"prod\"\x7d, \"app-$ENV\"]\x7d"] }
    function := replace },
  { signature := {
      name := "MatchPattern"
      category := .string
      description := "True when the regular expression matches anywhere in the text"
      parameters := [
        ⟨"pattern", some "string", "Regular expression"⟩,
        ⟨"text", some "string", "Text to test"⟩]
      returnType := some "boolean"
      examples := ["\x7b\"Fn::MatchPattern\": [\"^cn-\", \x7b\"Ref\": \"Region\"\x7d]\x7d"] }
    function := matchPattern }]

end CloudTemplate.Strings

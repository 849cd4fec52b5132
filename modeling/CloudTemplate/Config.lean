import CloudTemplate.Json.Basic
import CloudTemplate.Json.Reader

/-!
# Configuration

The markers by which calls are recognised, the fields of a template that are read, and two
limits. A configuration can be read from a document: an object names the fields to be set, an
array gives them in their order, and what is not given keeps its default. Unknown and repeated
fields are refused.
-/

set_option autoImplicit false

namespace CloudTemplate

/-- What the resolution of a template depends on besides the template. -/
structure Config where
  /-- The key of a map that refers to a parameter or a resource. -/
  referenceKey : String
  /-- How the key of a function call starts. -/
  functionMark : String
  /-- How the name of a parameter starts that is known only at run time. -/
  pseudoMark : String
  /-- The field of a declared parameter that holds its value. -/
  resolvedValueField : String
  /-- The greatest number of values that may be resolved inside each other. -/
  maxDepth : Nat
  /-- The greatest length, in bytes, of a text that may grow beyond its parts. -/
  maxStringLength : Nat
  deriving Repr, DecidableEq

namespace Config

/-- The markers of the template language, 512 levels, and four mebibytes. -/
def standard : Config where
  referenceKey := "Ref"
  functionMark := "Fn::"
  pseudoMark := "ALIYUN::"
  resolvedValueField := "ResolvedValue"
  maxDepth := 512
  maxStringLength := 4 * 1024 * 1024

instance : Inhabited Config := ⟨standard⟩

/-- A number that counts something. -/
def count? : Json → Option Nat
  | .number (.integer n) => if 0 ≤ n then some n.toNat else none
  | _ => none

/-- A text. -/
def text? : Json → Option String
  | .string s => some s
  | _ => none

/-- The names of the fields in a document, in their order. -/
def fieldNames : List String :=
  ["reference_key", "function_prefix", "pseudo_parameter_prefix", "resolved_value_field",
    "max_depth", "max_string_length"]

/-- Sets a field, if it is known and the value is of its kind. -/
def set? (config : Config) (field : String) (value : Json) : Option Config :=
  match field with
  | "reference_key" => (text? value).map fun s => { config with referenceKey := s }
  | "function_prefix" => (text? value).map fun s => { config with functionMark := s }
  | "pseudo_parameter_prefix" => (text? value).map fun s => { config with pseudoMark := s }
  | "resolved_value_field" => (text? value).map fun s => { config with resolvedValueField := s }
  | "max_depth" => (count? value).map fun n => { config with maxDepth := n }
  | "max_string_length" => (count? value).map fun n => { config with maxStringLength := n }
  | _ => none

/-- Sets fields one after the other. -/
def setAll? (config : Config) (fields : List (String × Json)) : Option Config :=
  fields.foldlM (fun config field => config.set? field.1 field.2) config

/-- The configuration that a document describes. -/
def ofJson? : Json → Option Config
  | .object fields =>
    if (fields.map Prod.fst).Nodup then standard.setAll? fields else none
  | .array values =>
    if values.length ≤ fieldNames.length then standard.setAll? (fieldNames.zip values) else none
  | _ => none

/-- The configuration that a text describes. -/
def read? (text : String) : Option Config :=
  match Json.readRaw text with
  | .ok document => ofJson? document
  | .error _ => none

/-- The configuration as a document with all its fields. -/
def toJson (config : Config) : Json :=
  .object (fieldNames.zip
    [.string config.referenceKey, .string config.functionMark, .string config.pseudoMark,
      .string config.resolvedValueField, .number (.integer config.maxDepth),
      .number (.integer config.maxStringLength)])

end Config

end CloudTemplate

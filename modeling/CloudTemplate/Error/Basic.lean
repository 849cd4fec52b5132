import CloudTemplate.Error.Code
import CloudTemplate.Value.Basic
import CloudTemplate.Text.Quoted
import CloudTemplate.Decimal.Layout
import CloudTemplate.Json.Reader
import CloudTemplate.Base64
import CloudTemplate.Pattern.Basic

/-!
# Errors

What ends a resolution. Arguments that are not known yet are no error: the function stays in the
template. An error records its cause, and `Error.message` puts it into words.

The condition in which an error arose is wrapped around it; `Error.rootCause` looks through the
wrappers.
-/

set_option autoImplicit false

namespace CloudTemplate

/-- Why the arguments of a function do not suit it. -/
inductive Error.ArgumentFault where
  /-- The function takes another number of arguments. -/
  | wrongCount (expected actual : Nat)
  | tooFew (least actual : Nat)
  /-- A substitution takes a text and perhaps a map. -/
  | notTextAndMap (actual : Nat)
  /-- The text does not start with an integer of 64 bits. -/
  | invalidIndex (text : String)
  | negativeIndent (count : Int64)
  | indentTooLong (count limit : Nat)
  | unequalLengths (expected actual : Nat)
  /-- A reason of the function's own. -/
  | other (reason : String)
  deriving Repr, DecidableEq

/-- What ends a resolution. -/
inductive Error where
  | invalidArguments (function : String) (fault : Error.ArgumentFault)
  /-- An argument resolved to a value of another kind. -/
  | invalidType (function argument expected actual : String)
  | indexOutOfBounds (function : String) (index : Int64) (length : Nat)
  /-- The value says neither true nor false. -/
  | notBoolean (value : Value)
  | divisionByZero
  | moduloByZero
  /-- The result of a computation is infinite or undefined. -/
  | nonFinite (function : String) (result : Float)
  | invalidPattern (function : String) (fault : Pattern.Fault)
  | invalidJson (function : String) (fault : Json.Fault)
  | invalidBase64 (function : String) (fault : Base64.Fault)
  /-- These conditions wait for each other. -/
  | circularDependency (conditions : List String)
  /-- The condition still is a call after its resolution. -/
  | unresolvableCondition (name : String)
  /-- The error arose in a condition. -/
  | condition (name : String) (cause : Error)
  | depthExceeded (maxDepth : Nat)
  | duplicateFunction (name : String)

namespace Error

instance : Inhabited Error := ⟨.divisionByZero⟩

/-- The fault in words. -/
def ArgumentFault.message : ArgumentFault → String
  | .wrongCount expected actual =>
    "expected " ++ toString expected ++ " arguments, got " ++ toString actual
  | .tooFew least actual =>
    "expected at least " ++ toString least ++ " arguments, got " ++ toString actual
  | .notTextAndMap actual =>
    "expected a string and optional variable map, got " ++ toString actual ++ " arguments"
  | .invalidIndex text => "invalid index format: " ++ Text.quoted text
  | .negativeIndent count =>
    "indent count must not be negative, got " ++ toString count.toInt
  | .indentTooLong count limit =>
    "indent count " ++ toString count ++ " would exceed the maximum string length of " ++
      toString limit
  | .unequalLengths expected actual =>
    "all lists must have the same length, expected " ++ toString expected ++ " got " ++
      toString actual
  | .other reason => reason

/-- How a value that is no boolean is named: texts are quoted, other values named by their
kind. -/
def nameOfNonBoolean : Value → String
  | .string s => "string " ++ Text.quoted s
  | value => value.typeName

/-- Names with commas between them. -/
def commaSeparated : List String → String
  | [] => ""
  | [name] => name
  | name :: next :: names => name ++ ", " ++ commaSeparated (next :: names)

/-- The error in words. For patterns and documents it says that they are invalid and not
why. -/
def message : Error → String
  | .invalidArguments function fault => function ++ ": " ++ fault.message
  | .invalidType function argument expected actual =>
    function ++ ": " ++ argument ++ " must be " ++ expected ++ ", got " ++ actual
  | .indexOutOfBounds function index length =>
    function ++ ": index " ++ toString index.toInt ++ " out of bounds for list of length " ++
      toString length
  | .notBoolean value => "cannot convert " ++ nameOfNonBoolean value ++ " to boolean"
  | .divisionByZero => "division by zero"
  | .moduloByZero => "modulo by zero"
  | .nonFinite function result =>
    function ++ ": result " ++ Decimal.text result ++ " is not a finite number"
  | .invalidPattern function _ => function ++ ": invalid regex pattern: "
  | .invalidJson function _ => function ++ ": invalid JSON: "
  | .invalidBase64 function fault => function ++ ": invalid Base64 string: " ++ fault.message
  | .circularDependency conditions =>
    "circular dependency detected in conditions: [" ++ commaSeparated conditions ++ "]"
  | .unresolvableCondition name => "condition " ++ name ++ " cannot be statically evaluated"
  | .condition name cause => "error resolving condition " ++ name ++ ": " ++ cause.message
  | .depthExceeded maxDepth => "maximum nesting depth of " ++ toString maxDepth ++ " exceeded"
  | .duplicateFunction name => "function '" ++ name ++ "' is already registered"

/-- The code of an error. -/
def code : Error → ErrorCode
  | .invalidArguments .. => ⟨1⟩
  | .invalidType .. => ⟨2⟩
  | .indexOutOfBounds .. => ⟨3⟩
  | .notBoolean .. => ⟨4⟩
  | .divisionByZero => ⟨21⟩
  | .moduloByZero => ⟨22⟩
  | .nonFinite .. => ⟨23⟩
  | .invalidPattern .. => ⟨31⟩
  | .invalidJson .. => ⟨32⟩
  | .invalidBase64 .. => ⟨33⟩
  | .circularDependency .. => ⟨41⟩
  | .unresolvableCondition .. => ⟨42⟩
  | .condition .. => ⟨43⟩
  | .depthExceeded .. => ⟨51⟩
  | .duplicateFunction .. => ⟨52⟩

/-- The error without the conditions wrapped around it. -/
def rootCause : Error → Error
  | .condition _ cause => cause.rootCause
  | error => error

end Error

/-- The truth of a value, or the error that it has none. -/
def Value.toBool (value : Value) : Except Error Bool :=
  match value.toBool? with
  | some truth => .ok truth
  | none => .error (.notBoolean value)

end CloudTemplate

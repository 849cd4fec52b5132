import CloudTemplate.Function.Signature
import CloudTemplate.Value.Text
import CloudTemplate.Text.Affix

/-!
# Substitution

A text with tokens is cut from the left into plain characters and tokens. A token is a dollar
sign, an opening brace, a body that is not empty and has no closing brace, and the next closing
brace. A body of two or more characters that starts with an exclamation mark is an escape: it
stands for the token of the rest of the body. Every other body is a name.

Substitution is all or nothing: if one name has no known value, the call is kept.
-/

set_option autoImplicit false

namespace CloudTemplate

/-- A piece of a text with tokens. -/
inductive Substitution.Piece where
  | plain (c : Char)
  | escape (name : List Char)
  | name (name : List Char)
  deriving Repr, DecidableEq

namespace Substitution

/-- The text of the pattern that finds the tokens. -/
def tokenPattern : String := "\\$\\\x7b(!?)([^\x7d]+)\\\x7d"

/-- The piece that a body stands for. -/
def pieceOfBody : List Char → Piece
  | '!' :: c :: name => .escape (c :: name)
  | name => .name name

/-- The body of a token and the text after it, if the text starts with a token. -/
def token? : List Char → Option (List Char × List Char)
  | '$' :: '\x7b' :: text =>
    match text.span (· ≠ '\x7d') with
    | ([], _) => none
    | (_, []) => none
    | (body, _ :: rest) => some (body, rest)
  | _ => none

/-- Cuts a text into pieces, with a bound on their number. -/
def cut : (limit : Nat) → List Char → List Piece
  | 0, _ => []
  | _, [] => []
  | limit + 1, c :: text =>
    match token? (c :: text) with
    | some (body, rest) => pieceOfBody body :: cut limit rest
    | none => .plain c :: cut limit text

/-- The pieces of a text. -/
def pieces (text : List Char) : List Piece :=
  cut text.length text

/-- The written form of a token. -/
def written (body : List Char) : List Char :=
  '$' :: '\x7b' :: (body ++ ['\x7d'])

/-- Whether a name can have a value before run time. Names of pseudo parameters and of
attributes of resources cannot. -/
def isStatic (config : Config) (name : List Char) : Bool :=
  (Text.after? config.pseudoMark.toList name).isNone && !name.contains '.'

/-- The value of a name: that of an inline variable, or else of a parameter. There is none while
the value is a call. -/
def value? (call : Invocation) (inline : Entries Value) (name : List Char) : Option Value :=
  let name := String.ofList name
  match (Entries.get? inline name).or (call.scope.parameters.get? name) with
  | some value => if call.isCall value then none else some value
  | none => none

/-- The line to note when a name has no value. -/
def complaint (call : Invocation) (name : List Char) (reason : String) : String :=
  call.key ++ ": " ++ String.ofList (written name) ++ reason

/-- Puts the values in the place of the names. The result is the text, or the line that says
which name has no value. -/
def substitute (call : Invocation) (inline : Entries Value) :
    List Piece → Except String (List Char)
  | [] => .ok []
  | .plain c :: pieces => do
    let text ← substitute call inline pieces
    .ok (c :: text)
  | .escape name :: pieces => do
    let text ← substitute call inline pieces
    .ok (written name ++ text)
  | .name name :: pieces =>
    if !isStatic call.scope.config name then
      .error (complaint call name " is only known at runtime")
    else match value? call inline name with
      | some value => do
        let text ← substitute call inline pieces
        .ok (value.text.toList ++ text)
      | none => .error (complaint call name " is not resolvable")

/-- The text and the variables of a substitution: a text alone, or a list of a text and perhaps
the variables. -/
def arguments (call : Invocation) : Program (Value × Option Value) :=
  match call.arguments with
  | .list [text] => pure (text, none)
  | .list [text, inline] => pure (text, some inline)
  | .list arguments => call.refuse (.notTextAndMap arguments.length)
  | text => pure (text, none)

/-- Resolves the inline variables, if there are any, and goes on with them. -/
def withInline (call : Invocation) (inline : Option Value)
    (next : Entries Value → Program Value) : Program Value :=
  match inline with
  | none => next []
  | some inline => call.known inline fun value => do
    let entries ← call.expectMap "variables" value
    next entries

/-- Substitutes the names in a text by inline variables and parameters. The pattern of tokens is
compiled and kept for later texts, but the text is cut into its pieces without it. They are exactly
what the pattern finds in the text (`Cuts.found`). -/
def sub : Function := fun call => do
  let (text, inline) ← arguments call
  call.known text fun template => do
    let text ← call.expectText "template" template
    withInline call inline fun inline => do
      let _ ← Program.compiled call.key tokenPattern
      match substitute call inline (pieces text.toList) with
      | .ok result => pure (.string (String.ofList result))
      | .error line => Program.noting line call.node

end Substitution

end CloudTemplate

import CloudTemplate.Json.Basic
import CloudTemplate.Decimal.Reader

/-!
# Reading documents

A strict reader of JSON: nothing but the four blanks of the format between tokens, no leading
zeros, no trailing commas, no control characters and no lone surrogates in strings, no number
beyond the greatest binary one, at most 127 arrays and objects inside each other, and nothing
after the document.

Nesting is the recursion: `value limit d` reads a document that opens at most `d` arrays and objects
inside each other, given the reader of what stands inside them. The children of one array or
object are no more than the text has characters.
-/

set_option autoImplicit false

namespace CloudTemplate.Json

/-- Why a text is no document. -/
inductive Fault where
  | unexpectedEnd
  | unexpected (found : Char)
  | controlInString (found : Char)
  | loneSurrogate
  | numberOutOfRange
  | tooDeep
  deriving Repr, DecidableEq

/-- A reader takes a part off the front of a text. -/
abbrev Reader (α : Type) := List Char → Except Fault (α × List Char)

/-- The greatest number of arrays and objects inside each other. -/
def maxNesting : Nat := 127

/-- The four characters that may stand between tokens. -/
def isGap (c : Char) : Bool :=
  c == ' ' || c == '\n' || c == '\t' || c == '\r'

/-- The text from the next token on. -/
def skipGap (text : List Char) : List Char :=
  text.dropWhile isGap

/-- The failure of a reader in front of `text`. -/
def stuck {α : Type} (text : List Char) : Except Fault α :=
  match text with
  | [] => .error .unexpectedEnd
  | c :: _ => .error (.unexpected c)

namespace Reader

/-! ## Strings -/

/-- The value of a hexadecimal digit of either case. -/
def hexValue? (c : Char) : Option Nat :=
  if '0' ≤ c ∧ c ≤ '9' then some (c.toNat - '0'.toNat)
  else if 'a' ≤ c ∧ c ≤ 'f' then some (c.toNat - 'a'.toNat + 10)
  else if 'A' ≤ c ∧ c ≤ 'F' then some (c.toNat - 'A'.toNat + 10)
  else none

/-- The character that a one-letter escape stands for. -/
def escaped? (letter : Char) : Option Char :=
  match letter with
  | '"' => some '"'
  | '\\' => some '\\'
  | '/' => some '/'
  | 'b' => some '\x08'
  | 'f' => some '\x0c'
  | 'n' => some '\n'
  | 'r' => some '\r'
  | 't' => some '\t'
  | _ => none

/-- Where a string is being read. -/
inductive StringState where
  /-- Between characters. -/
  | between
  /-- After a backslash. -/
  | escape
  /-- Inside a code unit of which this many digits are still missing. The high surrogate read
  before it, if there is one, waits for its other half. -/
  | codeUnit (missing : Nat) (value : Nat) (high : Option Nat)
  /-- After a high surrogate, where a second escape must follow. -/
  | afterHigh (high : Nat)
  /-- After a high surrogate and a backslash. -/
  | afterHighEscape (high : Nat)

/-- What a complete code unit means: a character, or the first half of one. -/
def codeUnit (value : Nat) (high : Option Nat) : Except Fault (Option Char × StringState) :=
  match high with
  | none =>
    if 0xD800 ≤ value ∧ value < 0xDC00 then .ok (none, .afterHigh value)
    else if 0xDC00 ≤ value ∧ value < 0xE000 then .error .loneSurrogate
    else .ok (some (Char.ofNat value), .between)
  | some high =>
    if 0xDC00 ≤ value ∧ value < 0xE000 then
      .ok (some (Char.ofNat (0x10000 + (high - 0xD800) * 0x400 + (value - 0xDC00))), .between)
    else .error .loneSurrogate

/-- Reads the rest of a string up to its closing quote. -/
def stringFrom : StringState → Reader (List Char)
  | _, [] => .error .unexpectedEnd
  | .between, c :: text =>
    if c = '"' then .ok ([], text)
    else if c = '\\' then stringFrom .escape text
    else if c.toNat < 0x20 then .error (.controlInString c)
    else (stringFrom .between text).map fun (read, rest) => (c :: read, rest)
  | .escape, c :: text =>
    if c = 'u' then stringFrom (.codeUnit 4 0 none) text
    else match escaped? c with
      | some meant => (stringFrom .between text).map fun (read, rest) => (meant :: read, rest)
      | none => .error (.unexpected c)
  | .codeUnit missing value high, c :: text =>
    match hexValue? c with
    | none => .error (.unexpected c)
    | some digit =>
      if 1 < missing then stringFrom (.codeUnit (missing - 1) (16 * value + digit) high) text
      else match codeUnit (16 * value + digit) high with
        | .error fault => .error fault
        | .ok (none, state) => stringFrom state text
        | .ok (some meant, state) =>
          (stringFrom state text).map fun (read, rest) => (meant :: read, rest)
  | .afterHigh high, c :: text =>
    if c = '\\' then stringFrom (.afterHighEscape high) text else .error .loneSurrogate
  | .afterHighEscape high, c :: text =>
    if c = 'u' then stringFrom (.codeUnit 4 0 (some high)) text else .error .loneSurrogate

/-- Reads a string after its opening quote. -/
def string : Reader String := fun text =>
  (stringFrom .between text).map fun (read, rest) => (String.ofList read, rest)

/-! ## Numbers -/

/-- The digits after a point, if there is a point. -/
def fraction : Reader (Option (List Char))
  | '.' :: text =>
    let (digits, rest) := Decimal.spanDigits text
    if digits = [] then stuck rest else .ok (some digits, rest)
  | text => .ok (none, text)

/-- The power of ten after a letter `e`, if there is one. -/
def power : Reader (Option Int)
  | mark :: text =>
    if mark = 'e' ∨ mark = 'E' then
      let (negative, text) := match text with
        | '+' :: text => (false, text)
        | '-' :: text => (true, text)
        | text => (false, text)
      let (digits, rest) := Decimal.spanDigits text
      if digits = [] then stuck rest
      else
        let magnitude : Int := Decimal.natOfDigits digits
        .ok (some (if negative then -magnitude else magnitude), rest)
    else .ok (none, mark :: text)
  | [] => .ok (none, [])

/-- A binary number, unless it lies beyond the greatest one. -/
def real (negative : Bool) (coefficient : Nat) (exponent : Int) : Except Fault Number :=
  let magnitude := Decimal.nearest coefficient exponent
  if magnitude == 1.0 / 0.0 then .error .numberOutOfRange
  else .ok (.real (if negative then -magnitude else magnitude))

/-- The number with these parts. One without a fraction and a power is an integer if it is in
range; a negative zero is none. -/
def numberOf (negative : Bool) (whole : List Char) (fraction : Option (List Char))
    (power : Option Int) : Except Fault Number :=
  match fraction, power with
  | none, none =>
    let magnitude := Decimal.natOfDigits whole
    if negative then
      if 0 < magnitude ∧ magnitude ≤ Nat.pow 2 63 then .ok (.integer (-(magnitude : Int)))
      else real true magnitude 0
    else if magnitude < Nat.pow 2 64 then .ok (.integer magnitude)
    else real false magnitude 0
  | _, _ =>
    let digits := fraction.getD []
    real negative (Decimal.natOfDigits (whole ++ digits)) (power.getD 0 - digits.length)

/-- Reads a number. -/
def number : Reader Number := fun text => do
  let (negative, text) := match text with
    | '-' :: text => (true, text)
    | text => (false, text)
  let (whole, text) := Decimal.spanDigits text
  match whole with
  | [] => stuck text
  | '0' :: digit :: _ => .error (.unexpected digit)
  | _ =>
    let (fraction, text) ← fraction text
    let (power, text) ← power text
    let number ← numberOf negative whole fraction power
    .ok (number, text)

/-! ## Documents -/

/-- Reads the given characters. -/
def exactly : List Char → List Char → Except Fault (List Char)
  | [], text => .ok text
  | _ :: _, [] => .error .unexpectedEnd
  | c :: expected, d :: text => if c = d then exactly expected text else .error (.unexpected d)

/-- Reads the items of an array from the first one to the closing bracket. -/
def items (item : Reader Json) : Nat → Reader (List Json)
  | 0, text => stuck text
  | fuel + 1, text => do
    let (first, text) ← item (skipGap text)
    match skipGap text with
    | ',' :: text => do
      let (others, text) ← items item fuel text
      .ok (first :: others, text)
    | ']' :: text => .ok ([first], text)
    | text => stuck text

/-- Reads a key, a colon and a value. -/
def entry (value : Reader Json) : Reader (String × Json) := fun text =>
  match text with
  | '"' :: text => do
    let (key, text) ← string text
    match skipGap text with
    | ':' :: text => do
      let (value, text) ← value (skipGap text)
      .ok ((key, value), text)
    | text => stuck text
  | text => stuck text

/-- Reads the entries of an object from the first one to the closing brace. -/
def entries (value : Reader Json) : Nat → Reader (List (String × Json))
  | 0, text => stuck text
  | fuel + 1, text => do
    let (first, text) ← entry value (skipGap text)
    match skipGap text with
    | ',' :: text => do
      let (others, text) ← entries value fuel text
      .ok (first :: others, text)
    | '\x7d' :: text => .ok ([first], text)
    | text => stuck text

/-- Reads a document other than an array or an object, or passes on the text. -/
def scalar : Reader Json := fun text =>
  match text with
  | [] => .error .unexpectedEnd
  | 'n' :: text => (exactly ['u', 'l', 'l'] text).map (.null, ·)
  | 't' :: text => (exactly ['r', 'u', 'e'] text).map (.bool true, ·)
  | 'f' :: text => (exactly ['a', 'l', 's', 'e'] text).map (.bool false, ·)
  | '"' :: text => (string text).map fun (read, rest) => (.string read, rest)
  | c :: text =>
    if c = '-' ∨ Decimal.isDigit c then
      (number (c :: text)).map fun (read, rest) => (.number read, rest)
    else .error (.unexpected c)

/-- Reads a document that opens at most `nesting` arrays and objects inside each other, each
with at most `limit` children. -/
def value (limit : Nat) : (nesting : Nat) → Reader Json
  | 0, text =>
    match text with
    | '[' :: _ | '\x7b' :: _ => .error .tooDeep
    | text => scalar text
  | nesting + 1, text =>
    match text with
    | '[' :: text =>
      match skipGap text with
      | ']' :: text => .ok (.array [], text)
      | text => (items (value limit nesting) limit text).map fun (read, rest) =>
        (.array read, rest)
    | '\x7b' :: text =>
      match skipGap text with
      | '\x7d' :: text => .ok (.object [], text)
      | text => (entries (value limit nesting) limit text).map fun (read, rest) =>
        (.object read, rest)
    | text => scalar text

end Reader

/-- Reads a whole text as one document, repeated keys kept as they are. -/
def readRaw (text : String) : Except Fault Json := do
  let text := skipGap text.toList
  let (document, rest) ← Reader.value text.length maxNesting text
  match skipGap rest with
  | [] => .ok document
  | rest => stuck rest

/-- Reads a whole text as one document in which no key is repeated. -/
def read (text : String) : Except Fault Json :=
  (readRaw text).map settled

end CloudTemplate.Json

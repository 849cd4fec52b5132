import CloudTemplate.Pattern.Basic
import CloudTemplate.Pattern.Class
import CloudTemplate.Pattern.Flags
import CloudTemplate.Text.Blank
import CloudTemplate.Decimal.Reader
import CloudTemplate.Json.Reader

/-!
# Scanning patterns

The small parts of the notation of patterns: blanks and comments that do not count, counts of
repetitions, escapes for code points, names in braces, settings of flags, and names of groups.
-/

set_option autoImplicit false

namespace CloudTemplate.Pattern

/-- The text without leading blanks and comments. A comment starts with a number sign and ends
with its line. -/
def skipComments : (inComment : Bool) → List Char → List Char
  | _, [] => []
  | true, c :: text => skipComments (c != '\n') text
  | false, c :: text =>
    if Text.isBlank c then skipComments false text
    else if c = '#' then skipComments true text
    else c :: text

/-- The text from the next character on that counts. -/
def skip (flags : Flags) (text : List Char) : List Char :=
  if flags.verbose then skipComments false text else text

/-- The characters that have a meaning of their own in patterns. -/
def isMeta (c : Char) : Bool :=
  c ∈ ['\\', '.', '+', '*', '?', '(', ')', '|', '[', ']', '\x7b', '\x7d', '^', '$', '#', '&', '-',
    '~']

/-- Whether a backslash before the character makes it stand for itself. -/
def isEscapable (c : Char) : Bool :=
  isMeta c || (c.toNat < 0x80 && !c.isAlphanum && c != '<' && c != '>')

/-! ## Counts -/

/-- Reads digits, skipping what does not count between them. -/
def digitsFrom (flags : Flags) : Nat → List Char → List Char × List Char
  | 0, text => ([], text)
  | fuel + 1, text =>
    match text with
    | c :: rest =>
      if Decimal.isDigit c then
        let (digits, rest) := digitsFrom flags fuel (skip flags rest)
        (c :: digits, rest)
      else ([], text)
    | [] => ([], [])

/-- Skips blanks, and what does not count after each of them. -/
def blanksFrom (flags : Flags) : Nat → List Char → List Char
  | 0, text => text
  | fuel + 1, text =>
    match text with
    | c :: rest => if Text.isBlank c then blanksFrom flags fuel (skip flags rest) else text
    | [] => []

/-- Reads a count of 32 bits with blanks around it. There may be none. -/
def count? (flags : Flags) (text : List Char) : Except Fault (Option Nat × List Char) :=
  let text := text.dropWhile Text.isBlank
  let (digits, rest) := digitsFrom flags text.length text
  let rest := blanksFrom flags rest.length rest
  if digits = [] then .ok (none, rest)
  else if Decimal.natOfDigits digits < Nat.pow 2 32 then
    .ok (some (Decimal.natOfDigits digits), rest)
  else .error .invalidCount

/-- Reads the bounds of a repetition after the opening brace. -/
def bounds (flags : Flags) (text : List Char) :
    Except Fault ((Nat × Option Nat) × List Char) := do
  let (first, rest) ← count? flags (skip flags text)
  match rest, first with
  | [], _ => .error .unexpectedEnd
  | ',' :: rest, first =>
    match skip flags rest, first with
    | [], _ => .error .unexpectedEnd
    | '\x7d' :: rest, some least => .ok ((least, none), rest)
    | rest, some least => do
      let (second, rest) ← count? flags rest
      match second, rest with
      | some greatest, '\x7d' :: rest =>
        if least ≤ greatest then .ok ((least, some greatest), rest) else .error .invalidCount
      | _, [] => .error .unexpectedEnd
      | _, _ => .error .invalidCount
    | _, none => .error .invalidCount
  | '\x7d' :: rest, some times => .ok ((times, some times), rest)
  | _, _ => .error .invalidCount

/-! ## Code points -/

/-- The character with a code point, if there is one. -/
def character? (code : Nat) : Option Char :=
  if code < 0xD800 ∨ (0xE000 ≤ code ∧ code < 0x110000) then some (Char.ofNat code) else none

/-- Reads a fixed number of hexadecimal digits. -/
def hexDigits (flags : Flags) :
    (missing : Nat) → (value : Nat) → List Char → Except Fault (Nat × List Char)
  | 0, value, text => .ok (value, text)
  | missing + 1, value, text =>
    match text with
    | [] => .error .unexpectedEnd
    | c :: rest =>
      match Json.Reader.hexValue? c with
      | some digit => hexDigits flags missing (16 * value + digit) (skip flags rest)
      | none => .error .invalidCodePoint

/-- Reads the characters that count up to a closing brace. -/
def upToBrace (flags : Flags) : Nat → List Char → Except Fault (List Char × List Char)
  | 0, _ => .error .unexpectedEnd
  | fuel + 1, text =>
    match skip flags text with
    | [] => .error .unexpectedEnd
    | '\x7d' :: rest => .ok ([], rest)
    | c :: rest => do
      let (name, rest) ← upToBrace flags fuel rest
      .ok (c :: name, rest)

/-- Reads a code point after the letter of its escape: in braces, or with the number of digits
that belongs to the letter. -/
def codePoint (flags : Flags) (digits : Nat) (text : List Char) :
    Except Fault (Char × List Char) := do
  match skip flags text with
  | [] => .error .unexpectedEnd
  | '\x7b' :: rest =>
    let (name, rest) ← upToBrace flags (rest.length + 1) rest
    if name = [] ∨ 16 < name.length ∧ name.all (· ≠ '0') then .error .invalidCodePoint
    else
      let code := name.foldl (fun value c =>
        match value, Json.Reader.hexValue? c with
        | some value, some digit => some (16 * value + digit)
        | _, _ => none) (some 0)
      match code.bind character? with
      | some c => .ok (c, skip flags rest)
      | none => .error .invalidCodePoint
  | text =>
    let (code, rest) ← hexDigits flags digits 0 text
    match character? code with
    | some c => .ok (c, rest)
    | none => .error .invalidCodePoint

/-! ## Flags and names of groups -/

/-- Reads settings of flags up to a colon or a closing parenthesis, which is handed on. No
flag and no minus sign may occur twice, and a flag must follow a minus sign. -/
def settings : (seen : List Char) → (value dangling : Bool) → List Char →
    Except Fault (List (Char × Bool) × Char × List Char)
  | _, _, _, [] => .error .unexpectedEnd
  | seen, value, dangling, c :: rest =>
    if c = ':' ∨ c = ')' then
      if dangling then .error .invalidFlag else .ok ([], c, rest)
    else if c = '-' then
      if value then settings seen false true rest else .error .invalidFlag
    else if c ∈ flagLetters ∧ c ∉ seen then do
      let (others, close, rest) ← settings (c :: seen) value false rest
      .ok ((c, value) :: others, close, rest)
    else .error .invalidFlag

/-- Whether a character may stand in the name of a group: a letter or an underscore, and after
the first place also a number, a point or a square bracket. -/
def isNameCharacter (first : Bool) (c : Char) : Bool :=
  c == '_' || isLetter c ||
    (!first && (c == '.' || c == '[' || c == ']' || isNumber c))

/-- Reads the name of a group up to the closing angle bracket. -/
def groupName : (first : Bool) → List Char → Except Fault (List Char × List Char)
  | _, [] => .error .unexpectedEnd
  | first, c :: rest =>
    if c = '>' then if first then .error .invalidGroupName else .ok ([], rest)
    else if isNameCharacter first c then do
      let (name, rest) ← groupName false rest
      .ok (c :: name, rest)
    else .error .invalidGroupName

end CloudTemplate.Pattern

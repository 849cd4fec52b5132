import CloudTemplate.Pattern.Scan
import CloudTemplate.Unicode.CaseFolding
import CloudTemplate.Text.Affix

/-!
# Escapes in patterns

What a backslash and the characters after it stand for: one character, a set of characters, or
a requirement on the place between two characters. Inside a bracketed class the first two can
be used, and only the first can bound a range.
-/

set_option autoImplicit false

namespace CloudTemplate.Pattern

open Unicode

/-- The simplest part of a pattern. -/
inductive Primitive where
  | literal (c : Char)
  | set (set : CharSet)
  | look (look : Look)

/-! ## Sets under flags -/

/-- The letters of a set between `first` and the letter 25 places later, moved to `other` and
the places after it. -/
def movedLetters (set : CharSet) (first other : Nat) : CharSet :=
  ⟨(set.intersection (CharSet.range first (first + 25))).ranges.map fun bounds =>
    (bounds.1 + other - first, bounds.2 + other - first)⟩

/-- Adds to a set of ASCII characters the letters of the other case. -/
def foldAscii (set : CharSet) : CharSet :=
  CharSet.unions [set, movedLetters set 0x41 0x61, movedLetters set 0x61 0x41]

/-- The set with the other cases of its letters, if case does not count. -/
def fold (flags : Flags) (set : CharSet) : CharSet :=
  if flags.ignoreCase then if flags.unicode then set.foldCase else foldAscii set else set

/-- The other characters, if the set is negated. Outside Unicode these include parts of
characters, which cannot be matched. -/
def negate (flags : Flags) (negated : Bool) (set : CharSet) : Except Fault CharSet :=
  if !negated then .ok set
  else if flags.unicode then .ok set.complement
  else .error .partialCharacter

/-! ## Properties -/

/-- Splits a text at the first place where a separator stands. -/
def cutAt? (separator : List Char) : List Char → Option (List Char × List Char)
  | [] => none
  | c :: rest =>
    match Text.after? separator (c :: rest) with
    | some value => some ([], value)
    | none => (cutAt? separator rest).map fun (name, value) => (c :: name, value)

/-- The set that the text in the braces of a property names, and whether it is to be negated. -/
def propertyInBraces? (text : List Char) : Option (CharSet × Bool) :=
  match cutAt? ['!', '='] text, cutAt? [':'] text <|> cutAt? ['='] text with
  | some (name, value), _ => (valued? name value).map (·, true)
  | none, some (name, value) => (valued? name value).map (·, false)
  | none, none => (named? text).map (·, false)

/-- Reads a property after its letter: a name in braces, or one letter. -/
def property (flags : Flags) (negated : Bool) (text : List Char) :
    Except Fault (CharSet × List Char) := do
  let ((found, rest) : Option (CharSet × Bool) × List Char) ← match skip flags text with
    | [] => .error .unexpectedEnd
    | '\\' :: _ => .error .unknownProperty
    | '\x7b' :: rest => do
      let (name, rest) ← upToBrace flags (rest.length + 1) rest
      .ok (propertyInBraces? name, rest)
    | c :: rest => .ok ((named? [c]).map (·, false), rest)
  match found with
  | none => .error .unknownProperty
  | some (set, negatedInside) =>
    if flags.unicode then
      let set ← negate flags (negated != negatedInside) (fold flags set)
      .ok (set, rest)
    else .error .unknownProperty

/-! ## Boundaries of words -/

/-- The boundary that a name in braces stands for. -/
def namedBoundary? (unicode : Bool) (name : String) : Option Look :=
  match name with
  | "start" => some (.word (some false) (some true) unicode)
  | "end" => some (.word (some true) (some false) unicode)
  | "start-half" => some (.word (some false) none unicode)
  | "end-half" => some (.word none (some false) unicode)
  | _ => none

/-- Whether a character may stand in the name of a boundary. -/
def isBoundaryLetter (c : Char) : Bool :=
  c.isAlpha || c == '-'

/-- Reads the letters of the name of a boundary. -/
def boundaryName (flags : Flags) : Nat → List Char → List Char × List Char
  | 0, text => ([], text)
  | fuel + 1, text =>
    match text with
    | c :: rest =>
      if isBoundaryLetter c then
        let (name, rest) := boundaryName flags fuel (skip flags rest)
        (c :: name, rest)
      else ([], text)
    | [] => ([], [])

/-- Reads what follows the letter of a word boundary. Braces that do not start with a letter
are left to be read as the bounds of a repetition. -/
def boundary (flags : Flags) (text : List Char) : Except Fault (Look × List Char) :=
  match text with
  | '\x7b' :: inside =>
    match skip flags inside with
    | [] => .error .unexpectedEnd
    | c :: rest =>
      if isBoundaryLetter c then
        match boundaryName flags (rest.length + 1) (c :: rest) with
        | (name, '\x7d' :: rest) =>
          match namedBoundary? flags.unicode (String.ofList name) with
          | some place => .ok (place, rest)
          | none => .error .invalidEscape
        | _ => .error .invalidEscape
      else .ok (.wordBoundary true flags.unicode, text)
  | _ => .ok (.wordBoundary true flags.unicode, text)

/-! ## Escapes -/

/-- The control character that a letter stands for. -/
def control? (letter : Char) : Option Char :=
  match letter with
  | 'a' => some '\x07'
  | 'f' => some '\x0c'
  | 't' => some '\t'
  | 'n' => some '\n'
  | 'r' => some '\r'
  | 'v' => some '\x0b'
  | _ => none

/-- The number of hexadecimal digits after a letter that introduces a code point. -/
def codePointDigits? (letter : Char) : Option Nat :=
  match letter with
  | 'x' => some 2
  | 'u' => some 4
  | 'U' => some 8
  | _ => none

/-- The requirement that a letter stands for by itself. -/
def simpleLook? (flags : Flags) (letter : Char) : Option Look :=
  match letter with
  | 'A' => some .textStart
  | 'z' => some .textEnd
  | 'B' => some (.wordBoundary false flags.unicode)
  | '<' => some (.word (some false) (some true) flags.unicode)
  | '>' => some (.word (some true) (some false) flags.unicode)
  | _ => none

/-- Whether two digits that name a code point name a part of a character: outside Unicode they
stand for one byte. -/
def isPartOfCharacter (flags : Flags) (letter : Char) (text : List Char) (c : Char) : Bool :=
  !flags.unicode && letter == 'x' && (skip flags text).head? != some '\x7b' && 0x7F < c.toNat

/-- Reads an escape after its backslash. -/
def escape (flags : Flags) (text : List Char) : Except Fault (Primitive × List Char) :=
  match text with
  | [] => .error .unexpectedEnd
  | c :: rest =>
    if Decimal.isDigit c then .error .backReference
    else match codePointDigits? c, letterClass? flags.unicode c.toLower with
    | some digits, _ => do
      let (literal, after) ← codePoint flags digits rest
      if isPartOfCharacter flags c rest literal then .error .partialCharacter
      else .ok (.literal literal, after)
    | none, some set => do
      let set ← negate flags c.isUpper set
      .ok (.set set, rest)
    | none, none =>
      if c = 'p' ∨ c = 'P' then do
        let (set, rest) ← property flags (c = 'P') rest
        .ok (.set set, rest)
      else if isEscapable c then .ok (.literal c, rest)
      else if c = 'b' then do
        let (place, rest) ← boundary flags rest
        .ok (.look place, rest)
      else match control? c, simpleLook? flags c with
      | some control, _ => .ok (.literal control, rest)
      | none, some place => .ok (.look place, rest)
      | none, none => .error .invalidEscape

end CloudTemplate.Pattern

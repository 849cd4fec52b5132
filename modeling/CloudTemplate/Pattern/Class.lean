import CloudTemplate.Unicode.Category
import CloudTemplate.Unicode.Script
import CloudTemplate.Unicode.ScriptExtension
import CloudTemplate.Unicode.Property
import CloudTemplate.Unicode.Age
import CloudTemplate.Unicode.GraphemeBreak
import CloudTemplate.Unicode.WordBreak
import CloudTemplate.Unicode.SentenceBreak
import CloudTemplate.Unicode.Addition

/-!
# Named classes of characters

The classes that patterns name: words, digits and blanks, each for the whole standard and for
ASCII, the bracketed names of ASCII classes, and the properties of the standard.
-/

set_option autoImplicit false

namespace CloudTemplate.Pattern

open Unicode

/-- The characters of words: letters, marks, decimal digits, connectors and joiners. -/
def wordSet : CharSet :=
  CharSet.unions [propertySet "Alpha", categories ["Mn", "Mc", "Me", "Nd", "Pc"],
    propertySet "Join_C"]

/-- The decimal digits. -/
def digitSet : CharSet :=
  categories ["Nd"]

/-- The blanks. -/
def blankSet : CharSet :=
  propertySet "WSpace"

/-- The characters of words in ASCII. -/
def asciiWordSet : CharSet :=
  ⟨[(0x30, 0x39), (0x41, 0x5A), (0x5F, 0x5F), (0x61, 0x7A)]⟩

/-- The set of an ASCII class by its name. -/
def asciiClass? (name : String) : Option CharSet :=
  match name with
  | "alnum" => some ⟨[(0x30, 0x39), (0x41, 0x5A), (0x61, 0x7A)]⟩
  | "alpha" => some ⟨[(0x41, 0x5A), (0x61, 0x7A)]⟩
  | "ascii" => some CharSet.ascii
  | "blank" => some ⟨[(0x09, 0x09), (0x20, 0x20)]⟩
  | "cntrl" => some ⟨[(0x00, 0x1F), (0x7F, 0x7F)]⟩
  | "digit" => some ⟨[(0x30, 0x39)]⟩
  | "graph" => some ⟨[(0x21, 0x7E)]⟩
  | "lower" => some ⟨[(0x61, 0x7A)]⟩
  | "print" => some ⟨[(0x20, 0x7E)]⟩
  | "punct" => some ⟨[(0x21, 0x2F), (0x3A, 0x40), (0x5B, 0x60), (0x7B, 0x7E)]⟩
  | "space" => some ⟨[(0x09, 0x0D), (0x20, 0x20)]⟩
  | "upper" => some ⟨[(0x41, 0x5A)]⟩
  | "word" => some asciiWordSet
  | "xdigit" => some ⟨[(0x30, 0x39), (0x41, 0x46), (0x61, 0x66)]⟩
  | _ => none

/-- The three classes with a letter of their own: digits, blanks and words. -/
def letterClass? (unicode : Bool) (letter : Char) : Option CharSet :=
  match letter with
  | 'd' => if unicode then some digitSet else asciiClass? "digit"
  | 's' => if unicode then some blankSet else asciiClass? "space"
  | 'w' => some (if unicode then wordSet else asciiWordSet)
  | _ => none

/-- The set of a property by its name. The short names of three categories are names of
properties too, and mean the categories. -/
def named? (name : List Char) : Option CharSet :=
  let name := looseName name
  let isCategory := name = ['c', 'f'] ∨ name = ['s', 'c'] ∨ name = ['l', 'c']
  (if isCategory then none else property? name) <|> generalCategory? name <|> script? name

/-- The set of the characters that have a value for a property. -/
def valued? (property value : List Char) : Option CharSet :=
  let value := looseName value
  match String.ofList (looseName property) with
  | "gc" | "generalcategory" => generalCategory? value
  | "sc" | "script" => script? value
  | "scx" | "scriptextensions" => scriptExtension? value
  | "age" => age? value
  | "gcb" | "graphemeclusterbreak" => graphemeBreak? value
  | "wb" | "wordbreak" => wordBreak? value
  | "sb" | "sentencebreak" => sentenceBreak? value
  | _ => none

/-- Whether a character counts as a letter in the name of a group. -/
def isLetter (c : Char) : Bool :=
  if c.toNat < 0x80 then c.isAlpha
  else (propertySet "Alpha").contains c.toNat || laterLetters.contains c.toNat

/-- Whether a character counts as a number in the name of a group. -/
def isNumber (c : Char) : Bool :=
  if c.toNat < 0x80 then c.isDigit
  else (categories ["Nd", "Nl", "No"]).contains c.toNat || laterNumbers.contains c.toNat

end CloudTemplate.Pattern

import CloudTemplate.Unicode.Category
import CloudTemplate.Unicode.Property
import CloudTemplate.Unicode.Addition

/-!
# Quoted text

The form in which messages show a text whose limits and contents must be seen: between double
quotes, with quotes and backslashes escaped, and with every character that could not be seen by
itself written by its code point. Marks that are drawn over or around the character before them
are among these, and so are letters that fill a place and show nothing.
-/

set_option autoImplicit false

namespace CloudTemplate.Text

/-- The code points that cannot be seen by themselves: controls, format characters, separators,
private and unassigned code points, marks without a width of their own, and whatever is to be
ignored where it cannot be shown. -/
def shapeless : Unicode.CharSet :=
  ((Unicode.categories ["Cc", "Cf", "Cn", "Co", "Zl", "Zp", "Zs", "Mn", "Me"]).union
    (Unicode.propertySet "DI")).difference Unicode.laterShapes

/-- Whether the character can be seen by itself. -/
def isVisible (c : Char) : Bool :=
  if c.toNat < 0x7F then 0x20 ≤ c.toNat else !shapeless.contains c.toNat

/-- The character written by its code point. -/
def codePoint (c : Char) : List Char :=
  '\\' :: 'u' :: '\x7b' :: (Nat.toDigits 16 c.toNat ++ ['\x7d'])

/-- A character between quotes. -/
def escape (c : Char) : List Char :=
  if c = '\x00' then ['\\', '0']
  else if c = '\t' then ['\\', 't']
  else if c = '\r' then ['\\', 'r']
  else if c = '\n' then ['\\', 'n']
  else if c = '\\' then ['\\', '\\']
  else if c = '"' then ['\\', '"']
  else if isVisible c then [c]
  else codePoint c

/-- The text between double quotes. -/
def quoted (text : String) : String :=
  String.ofList ('"' :: (text.toList.flatMap escape ++ ['"']))

/-- A list of texts, each of them quoted. -/
def quotedList (texts : List String) : String :=
  "[" ++ ", ".intercalate (texts.map quoted) ++ "]"

end CloudTemplate.Text

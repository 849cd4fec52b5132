/-!
# Flags of patterns

The switches that can be set inside a pattern, for the rest of a group or for a group of its
own.
-/

set_option autoImplicit false

namespace CloudTemplate.Pattern

/-- The flags in force at a place of a pattern. -/
structure Flags where
  /-- Letters match whatever their case. -/
  ignoreCase : Bool := false
  /-- The two anchors match at every line. -/
  multiLine : Bool := false
  /-- The dot matches line ends too. -/
  dotAll : Bool := false
  /-- Carriage returns end lines too. -/
  carriageReturns : Bool := false
  /-- Classes are those of the whole standard. -/
  unicode : Bool := true
  /-- Blanks and comments in the pattern do not count. -/
  verbose : Bool := false
  deriving Repr, DecidableEq, Inhabited

/-- The letters of the flags. The last one, which turns the preference of repetitions around,
has no influence on whether a pattern matches. -/
def flagLetters : List Char := ['i', 'm', 's', 'R', 'u', 'x', 'U']

/-- The flags with one of them set or cleared. -/
def Flags.set (flags : Flags) (letter : Char) (value : Bool) : Flags :=
  match letter with
  | 'i' => { flags with ignoreCase := value }
  | 'm' => { flags with multiLine := value }
  | 's' => { flags with dotAll := value }
  | 'R' => { flags with carriageReturns := value }
  | 'u' => { flags with unicode := value }
  | 'x' => { flags with verbose := value }
  | _ => flags

/-- Sets and clears flags one after the other. -/
def Flags.setAll (flags : Flags) (settings : List (Char × Bool)) : Flags :=
  settings.foldl (fun flags setting => flags.set setting.1 setting.2) flags

end CloudTemplate.Pattern

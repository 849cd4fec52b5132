import CloudTemplate.Pattern.Class
import CloudTemplate.Pattern.Basic

/-!
# Matching

A text of `n` characters has `n + 1` places, before and after its characters. A pattern leads
from a set of places to the places where a match that starts there can end. Sets of places are
numbers whose bit `i` stands for the place `i`, so a class moves all places at once.

A pattern is first laid over the text: every class becomes the set of places in front of one of
its characters, every requirement the set of places that meet it (`Pattern.laidOn`). Repetition
goes on until no further place is reached.
-/

set_option autoImplicit false

namespace CloudTemplate.Pattern

open Unicode

/-! ## Places -/

/-- Whether there is a character and it belongs to a word. -/
def isWordCharacter (unicode : Bool) (c : Option Char) : Bool :=
  match c with
  | none => false
  | some c => (if unicode then wordSet else asciiWordSet).contains c.toNat

/-- Whether a line starts between two characters. -/
def isLineStart (carriageReturns : Bool) (before after : Option Char) : Bool :=
  before == none || before == some '\n' ||
    (carriageReturns && before == some '\r' && after != some '\n')

/-- Whether a line ends between two characters. -/
def isLineEnd (carriageReturns : Bool) (before after : Option Char) : Bool :=
  if carriageReturns then
    after == none || after == some '\r' || (after == some '\n' && before != some '\r')
  else after == none || after == some '\n'

/-- Whether a place between two characters meets a requirement. -/
def Look.holds (look : Look) (before after : Option Char) : Bool :=
  match look with
  | .textStart => before == none
  | .textEnd => after == none
  | .lineStart carriageReturns => isLineStart carriageReturns before after
  | .lineEnd carriageReturns => isLineEnd carriageReturns before after
  | .word wantedBefore wantedAfter unicode =>
    (wantedBefore.all fun wanted => isWordCharacter unicode before == wanted) &&
      (wantedAfter.all fun wanted => isWordCharacter unicode after == wanted)
  | .wordBoundary expected unicode =>
    (isWordCharacter unicode before != isWordCharacter unicode after) == expected

/-- The set of the places whose entry in a list is true. -/
def placesOf : List Bool → Nat
  | [] => 0
  | holds :: others => 2 * placesOf others + holds.toNat

/-- The places in front of a character of the set. -/
def placesBefore (set : CharSet) (text : List Char) : Nat :=
  placesOf (text.map fun c => set.contains c.toNat)

/-- The places that meet a requirement. -/
def placesMeeting (look : Look) (text : List Char) : Nat :=
  placesOf (List.zipWith look.holds (none :: text.map some) (text.map some ++ [none]))

/-! ## Walks -/

/-- A pattern laid over a text. -/
inductive Walk where
  /-- From any of the places to the next place. -/
  | advance (places : Nat)
  /-- Stays at any of the places. -/
  | stand (places : Nat)
  | sequence (first second : Walk)
  | either (left right : Walk)
  | repeated (body : Walk) (least greatest : Nat)

/-- Lays the pattern over a text. More repetitions than the text has places, beyond those
required, reach nothing new. -/
def laidOn (text : List Char) : Pattern → Walk
  | .empty => .stand (Nat.pow 2 (text.length + 1) - 1)
  | .chars set => .advance (placesBefore set text)
  | .look place => .stand (placesMeeting place text)
  | .sequence first second => .sequence (laidOn text first) (laidOn text second)
  | .either left right => .either (laidOn text left) (laidOn text right)
  | .group _ body => laidOn text body
  | .repeated body least greatest =>
    .repeated (laidOn text body) least (greatest.getD (least + text.length + 1))

/-- Takes a step a number of times, or until it changes nothing. -/
def times (step : Nat → Nat) : Nat → Nat → Nat
  | 0, places => places
  | rounds + 1, places =>
    let next := step places
    if next = places then places else times step rounds next

/-- The places reached in at most a number of rounds, given the places seen and those of them
that were new in the last round. -/
def reach (step : Nat → Nat) : Nat → (seen fresh : Nat) → Nat
  | 0, seen, _ => seen
  | rounds + 1, seen, fresh =>
    let next := step fresh
    let further := next ^^^ (next &&& seen)
    if further = 0 then seen else reach step rounds (seen ||| further) further

/-- The places where a walk from any of the given places can end. -/
def Walk.run : Walk → Nat → Nat
  | .advance places, start => (start &&& places) * 2
  | .stand places, start => start &&& places
  | .sequence first second, start => second.run (first.run start)
  | .either left right, start => left.run start ||| right.run start
  | .repeated body least greatest, start =>
    let required := times body.run least start
    reach body.run (greatest - least) required required

/-- Whether the pattern matches some part of the text. -/
def isMatch (pattern : Pattern) (text : String) : Bool :=
  let text := text.toList
  (laidOn text pattern).run (Nat.pow 2 (text.length + 1) - 1) != 0

end CloudTemplate.Pattern

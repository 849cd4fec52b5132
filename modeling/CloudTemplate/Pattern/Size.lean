import CloudTemplate.Pattern.Plan

/-!
# The size of patterns

Patterns are limited by the size of the automata that recognise them: the bytes that their
states take when repetitions are written out. There is one automaton that reads texts forwards
and notes what groups capture, and one that reads them backwards.

A set of characters takes states for the ranges of bytes in the encodings of its characters.
Forwards, states that lead on in the same way are shared; backwards, those that are reached in
the same way. A choice between texts shares the states of what the texts have in common where
they are read first.
-/

set_option autoImplicit false

namespace CloudTemplate.Pattern

open Unicode

/-- The greatest size of an automaton, in bytes. -/
def maxFootprint : Nat := 10 * 1024 * 1024

/-- The ways to read a text. -/
inductive Direction where
  | forwards
  | backwards
  deriving Repr, DecidableEq

/-- What must hold where reading starts for a match that cannot start elsewhere. -/
def Direction.edge : Direction → Look
  | .forwards => .textStart
  | .backwards => .textEnd

/-- A list in the order in which it is read. -/
def Direction.arrange {α : Type} (direction : Direction) (items : List α) : List α :=
  match direction with
  | .forwards => items
  | .backwards => items.reverse

/-! ## States -/

/-- The size of a state that leads on in one way, or nowhere. -/
def stateSize : Nat := 32

/-- The size of a state that leads to several others without reading. -/
def forkSize (ways : Nat) : Nat := stateSize + 4 * ways

/-- The size of a state that leads to others by ranges of bytes. -/
def rangesSize (ranges : Nat) : Nat := stateSize + 8 * ranges

/-- The sum of sizes. -/
def total (sizes : List Nat) : Nat := sizes.foldr (· + ·) 0

/-! ## Sets of characters -/

/-- The lists sorted into groups of neighbours with the same first range, without that range. -/
def byFirst : List ByteRanges → List ((Nat × Nat) × List ByteRanges)
  | [] => []
  | [] :: others => byFirst others
  | (first :: rest) :: others =>
    match byFirst others with
    | (next, rests) :: groups =>
      if first = next then (first, rest :: rests) :: groups
      else (first, [rest]) :: (next, rests) :: groups
    | [] => [(first, [rest])]

/-- What can follow at each state when the lists are read from their starts. -/
def continuations : (longest : Nat) → List ByteRanges → List (List ByteRanges)
  | 0, _ => []
  | longest + 1, lists =>
    match byFirst lists with
    | [] => []
    | groups => lists :: groups.flatMap fun group => continuations longest group.2

/-- How many ranges at the start of two lists are the same. -/
def sharedLength : ByteRanges → ByteRanges → Nat
  | one :: ones, other :: others => if one = other then sharedLength ones others + 1 else 0
  | _, _ => 0

/-- The number of ranges in the lists, where a range at the start of a list does not count if
the list before starts in the same way. -/
def unsharedCount : (before : ByteRanges) → List ByteRanges → Nat
  | _, [] => 0
  | before, ranges :: others =>
    ranges.length - sharedLength before ranges + unsharedCount ranges others

/-- The size of a set of characters with sorted ranges. -/
def setSize (direction : Direction) (ranges : List (Nat × Nat)) : Nat :=
  if ranges.all fun bounds => bounds.2 < 0x80 then stateSize + rangesSize ranges.length
  else
    let lists := ranges.flatMap byteRanges
    match direction with
    | .forwards =>
      let states := (continuations 4 lists).eraseDups
      stateSize + total (states.map fun following => rangesSize (byFirst following).length)
    | .backwards =>
      stateSize + forkSize lists.length + stateSize * unsharedCount [] lists

/-! ## Choices between texts -/

/-- The texts between the empty ones. -/
def betweenEmpty : List (List Nat) → List (List (List Nat))
  | [] => [[]]
  | [] :: words => [] :: betweenEmpty words
  | word :: words =>
    match betweenEmpty words with
    | chunk :: others => (word :: chunk) :: others
    | [] => [[word]]

/-- The texts between the empty ones, where several empty ones at the start count as one. -/
def chunks (words : List (List Nat)) : List (List (List Nat)) :=
  match words with
  | [] :: _ => [] :: betweenEmpty (words.dropWhile (·.isEmpty))
  | words => betweenEmpty words

/-- The bytes that texts start with. -/
def firstBytes (words : List (List Nat)) : List Nat :=
  (words.filterMap List.head?).eraseDups

/-- What follows a byte in the texts that start with it. -/
def following (byte : Nat) (words : List (List Nat)) : List (List Nat) :=
  words.filterMap fun word =>
    match word with
    | first :: rest => if first = byte then some rest else none
    | [] => none

/-- The size of the states that read one of several texts. An empty text ends the reading, and
those after it are only reached by a way of their own. -/
def wordsSize : (longest : Nat) → List (List Nat) → Nat
  | 0, _ => 0
  | longest + 1, words =>
    if words.all List.isEmpty then 0
    else
      let chunks := chunks words
      let filled := chunks.filter (!·.isEmpty)
      forkSize (filled.length + chunks.length - 1) +
        total (filled.map fun chunk =>
          let bytes := firstBytes chunk
          (if bytes.length = 1 then stateSize else rangesSize bytes.length) +
            total (bytes.map fun byte => wordsSize longest (following byte chunk)))

/-- The characters of a plan that is a text. -/
def Plan.text? : Plan → Option (List Nat)
  | .text codes => some codes
  | _ => none

/-- The size of a choice between texts. -/
def textsSize (direction : Direction) (texts : List (List Nat)) : Nat :=
  let words := texts.map fun codes => direction.arrange (codes.flatMap encoding)
  stateSize + wordsSize ((words.map List.length).foldl max 0) words

/-! ## Plans -/

namespace Plan

mutual

/-- The size of the states for a plan. -/
def footprint (direction : Direction) : Plan → Nat
  | .empty => stateSize
  | .text codes => stateSize * (codes.flatMap encoding).length
  | .chars set => setSize direction set.ranges
  | .look _ => stateSize
  | .sequence parts => total (footprints direction parts)
  | .choice alternatives =>
    match alternatives.mapM text? with
    | some texts => textsSize direction texts
    | none => forkSize alternatives.length + stateSize + total (footprints direction alternatives)
  | .capture body =>
    match direction with
    | .forwards => 2 * stateSize + body.footprint direction
    | .backwards => body.footprint direction
  | .repeated body 0 none =>
    if body.takesRoom then forkSize 2 + body.footprint direction
    else 2 * forkSize 2 + stateSize + body.footprint direction
  | .repeated body least none => least * body.footprint direction + forkSize 2
  | .repeated body 0 (some 1) => forkSize 2 + body.footprint direction + stateSize
  | .repeated body least (some greatest) =>
    if least = greatest then least * body.footprint direction
    else
      (if least = 0 then stateSize else least * body.footprint direction) + stateSize +
        (greatest - least) * (forkSize 2 + body.footprint direction)

/-- The sizes of the states for each of the plans. -/
def footprints (direction : Direction) : List Plan → List Nat
  | [] => []
  | plan :: others => plan.footprint direction :: footprints direction others

end

/-! ## Anchors -/

/-- Whether one of the parts that are read first is anchored, given for each part whether it is
anchored and whether it takes no room. -/
def anchoredAlong : List (Bool × Bool) → Bool
  | [] => false
  | (anchored, widthless) :: others => anchored || (widthless && anchoredAlong others)

mutual

/-- Whether a match can only start where the text does. -/
def isAnchored (direction : Direction) : Plan → Bool
  | .look place => place == direction.edge
  | .sequence parts => anchoredAlong (direction.arrange (anchors direction parts))
  | .choice alternatives => (anchors direction alternatives).all Prod.fst
  | .capture body => body.isAnchored direction
  | .repeated body least _ => least != 0 && body.isAnchored direction
  | .empty | .text _ | .chars _ => false

/-- For each of the plans whether it is anchored and whether it takes no room. -/
def anchors (direction : Direction) : List Plan → List (Bool × Bool)
  | [] => []
  | plan :: others =>
    (plan.isAnchored direction, plan.isWidthless) :: anchors direction others

end

/-- The size of the automaton of a plan. Before what is planned it has states that skip bytes,
unless a match must start where the text does; a last state accepts. -/
def automatonSize (direction : Direction) (plan : Plan) : Nat :=
  let skipping :=
    if plan.isAnchored direction then stateSize else forkSize 2 + stateSize + rangesSize 1
  skipping + (Plan.capture plan).footprint direction + stateSize

end Plan

/-- Whether one of the automata of the pattern is too large. -/
def isTooLarge (pattern : Pattern) : Bool :=
  let plan := pattern.plan
  maxFootprint < plan.automatonSize .forwards || maxFootprint < plan.automatonSize .backwards

end CloudTemplate.Pattern

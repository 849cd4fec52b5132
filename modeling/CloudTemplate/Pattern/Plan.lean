import CloudTemplate.Pattern.Basic
import CloudTemplate.Pattern.Encoding

/-!
# Plans of automata

Before the automaton of a pattern is built, the pattern is simplified: characters that follow
each other become one text, a choice between characters becomes a set, what all alternatives
start with is taken out of them, and what takes no room is repeated at most once. Parentheses
that capture nothing vanish. The result is the plan of the automaton (`Pattern.plan`).
-/

set_option autoImplicit false

namespace CloudTemplate.Pattern

open Unicode

/-- The plan of an automaton. -/
inductive Plan where
  | empty
  /-- The characters with these code points, one after the other. -/
  | text (codes : List Nat)
  /-- One character of a set with sorted ranges. Such a set does not have exactly one member. -/
  | chars (set : CharSet)
  | look (look : Look)
  | sequence (parts : List Plan)
  | choice (alternatives : List Plan)
  | capture (body : Plan)
  | repeated (body : Plan) (least : Nat) (greatest : Option Nat)

namespace Plan

/-! ## Extents -/

/-- The least and the greatest number of bytes that a match can take. Neither is there if
nothing matches, and the greatest one is missing where there is no bound. -/
structure Extent where
  least : Option Nat
  greatest : Option Nat

/-- The extent of what always takes the same number of bytes. -/
def Extent.exactly (bytes : Nat) : Extent := ⟨some bytes, some bytes⟩

/-- The extent of one match after the other. -/
def Extent.append (first second : Extent) : Extent where
  least := do some ((← first.least) + (← second.least))
  greatest := do some ((← first.greatest) + (← second.greatest))

/-- The extent of either match. -/
def Extent.either (one other : Extent) : Extent where
  least := do some (min (← one.least) (← other.least))
  greatest := do some (max (← one.greatest) (← other.greatest))

/-- The extent of repeated matches. -/
def Extent.times (extent : Extent) (least : Nat) (greatest : Option Nat) : Extent where
  least := extent.least.map (least * ·)
  greatest := do some ((← greatest) * (← extent.greatest))

/-- The extent of all matches one after the other. -/
def Extent.total (extents : List Extent) : Extent :=
  extents.foldr Extent.append (Extent.exactly 0)

/-- The extent of any of the matches. -/
def Extent.hull : List Extent → Extent
  | [] => ⟨none, none⟩
  | extent :: others => others.foldl Extent.either extent

mutual

/-- How many bytes a match of the plan can take. -/
def extent : Plan → Extent
  | .empty => Extent.exactly 0
  | .text codes => Extent.exactly (codes.flatMap encoding).length
  | .chars set =>
    ⟨set.ranges.head?.map fun bounds => (encoding bounds.1).length,
      set.ranges.getLast?.map fun bounds => (encoding bounds.2).length⟩
  | .look _ => Extent.exactly 0
  | .sequence parts => Extent.total (extents parts)
  | .choice alternatives => Extent.hull (extents alternatives)
  | .capture body => body.extent
  | .repeated body least greatest => body.extent.times least greatest

/-- How many bytes matches of the plans can take. -/
def extents : List Plan → List Extent
  | [] => []
  | plan :: others => plan.extent :: extents others

end

/-- Whether a match never takes any room. -/
def isWidthless (plan : Plan) : Bool :=
  plan.extent.greatest == some 0

/-- Whether every match takes room. -/
def takesRoom (plan : Plan) : Bool :=
  plan.extent.least.any (0 < ·)

/-! ## Building plans -/

/-- One character of a set. -/
def ofSet (set : CharSet) : Plan :=
  let set := set.normalized
  match set.ranges with
  | [(low, high)] => if low = high then .text [low] else .chars set
  | _ => .chars set

/-- The parts that follow each other in a plan. -/
def parts : Plan → List Plan
  | .sequence parts => parts
  | .empty => []
  | plan => [plan]

/-- Puts a part in front of others. Two texts that follow each other become one. -/
def precede (part : Plan) (others : List Plan) : List Plan :=
  match part, others with
  | .text codes, .text more :: others => .text (codes ++ more) :: others
  | part, others => part :: others

/-- Parts one after the other. -/
def ofParts : List Plan → Plan
  | [] => .empty
  | [part] => part
  | parts => .sequence parts

/-- One plan after the other. -/
def append (first second : Plan) : Plan :=
  ofParts (first.parts.foldr precede second.parts)

/-- A plan repeated. What takes no room need not be repeated more than once. -/
def ofRepeated (body : Plan) (least : Nat) (greatest : Option Nat) : Plan :=
  let (least, greatest) :=
    if body.isWidthless then (min least 1, some ((greatest.getD 1).min 1))
    else (least, greatest)
  if greatest = some 0 then .empty
  else if least = 1 ∧ greatest = some 1 then body
  else .repeated body least greatest

/-! ## Choices -/

mutual

/-- Whether two plans are the same. No two captures are, because each has a place of its own. -/
def same : Plan → Plan → Bool
  | .empty, .empty => true
  | .text codes, .text others => codes == others
  | .chars set, .chars other => set == other
  | .look place, .look other => place == other
  | .sequence parts, .sequence others => allSame parts others
  | .choice alternatives, .choice others => allSame alternatives others
  | .repeated body least greatest, .repeated other least' greatest' =>
    least == least' && greatest == greatest' && same body other
  | _, _ => false

/-- Whether two lists hold the same plans. -/
def allSame : List Plan → List Plan → Bool
  | [], [] => true
  | plan :: plans, other :: others => same plan other && allSame plans others
  | _, _ => false

end

/-- The parts that two lists start with. -/
def commonParts : List Plan → List Plan → List Plan
  | part :: parts, other :: others =>
    if same part other then part :: commonParts parts others else []
  | _, _ => []

/-- The parts of a plan that has several of them. -/
def parts? : Plan → Option (List Plan)
  | .sequence parts => some parts
  | _ => none

/-- The parts that all alternatives start with, if each of them has several parts. -/
def sharedParts (alternatives : List Plan) : List Plan :=
  match alternatives.mapM parts? with
  | some (first :: others) => others.foldl commonParts first
  | _ => []

/-- The only character of a plan. -/
def character? : Plan → Option Nat
  | .text [code] => some code
  | _ => none

/-- The set of a plan for one character of several. -/
def set? : Plan → Option CharSet
  | .chars set => some set
  | _ => none

/-- The alternatives of a plan. -/
def branches : Plan → List Plan
  | .choice alternatives => alternatives
  | plan => [plan]

/-- A choice between plans. The bound is for how often shared parts are taken out; taking them
out uncovers a choice that was nested one level deeper. -/
def ofAlternatives : (bound : Nat) → List Plan → Plan
  | 0, plans => .choice plans
  | bound + 1, plans =>
    match plans.flatMap branches with
    | [] => .chars CharSet.empty
    | [plan] => plan
    | alternatives =>
      match alternatives.mapM character?, alternatives.mapM set? with
      | some codes, _ => ofSet ⟨codes.map fun code => (code, code)⟩
      | none, some sets => ofSet (CharSet.unions sets)
      | none, none =>
        match sharedParts alternatives with
        | [] => .choice alternatives
        | shared =>
          (ofParts shared).append (ofAlternatives bound
            (alternatives.map fun plan => ofParts (plan.parts.drop shared.length)))

end Plan

/-- A choice between plans. -/
def Plan.ofChoice (alternatives : List Plan) : Plan :=
  Plan.ofAlternatives (maxNesting + 1) alternatives

/-- The plans of the alternatives that a pattern offers. -/
def alternatives : Pattern → List Plan
  | .empty => [.empty]
  | .chars set => [Plan.ofSet set]
  | .look place => [.look place]
  | .sequence first second =>
    [(Plan.ofChoice (alternatives first)).append (Plan.ofChoice (alternatives second))]
  | .either left right => alternatives left ++ alternatives right
  | .group captures body =>
    let plan := Plan.ofChoice (alternatives body)
    [if captures then .capture plan else plan]
  | .repeated body least greatest =>
    [Plan.ofRepeated (Plan.ofChoice (alternatives body)) least greatest]

/-- The plan of the automaton of a pattern. -/
def plan (pattern : Pattern) : Plan :=
  Plan.ofChoice pattern.alternatives

end CloudTemplate.Pattern

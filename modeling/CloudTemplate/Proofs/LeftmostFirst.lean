import CloudTemplate.Pattern.Match

/-!
# Leftmost-first matches

Which of several matches of a pattern is preferred. The first match from the left counts, and among
those that start at one place the one that is tried first: the left alternative comes before the
right one, and a repetition goes on before it stops. `Pattern.ways` lists the matches that start at
a place in this order, with the parts that are captured; a pattern keeps no record of repetitions
that rather stop, so it is taken to have none. `Pattern.Found` goes through a text with the first
way at every place, so what it finds is determined (`Pattern.Found.unique`).

A repetition of one character of a set takes all such characters, as far as the rest of the pattern
cannot match in front of one (`Pattern.flatMap_repeatedly`).
-/

set_option autoImplicit false

namespace CloudTemplate.Pattern

open Unicode

/-- A place in a text: the character before it, and the text after it. -/
structure Place where
  before : Option Char
  after : List Char

/-- A match of a pattern: what it captures, in the order in which the groups start, and where it
ends. -/
structure Way where
  captured : List (List Char)
  place : Place

namespace Way

/-- Stays where it is. -/
def stay (place : Place) : Way := ⟨[], place⟩

/-- The way with something captured before. -/
def precededBy (captured : List (List Char)) (way : Way) : Way :=
  ⟨captured ++ way.captured, way.place⟩

/-- What was passed over since a place. -/
def passed (start : Place) (way : Way) : List Char :=
  start.after.take (start.after.length - way.place.after.length)

end Way

/-- Goes on at the end of each way. -/
def goOn (ways : List Way) (next : Place → List Way) : List Way :=
  ways.flatMap fun way => (next way.place).map (Way.precededBy way.captured)

/-- Takes steps as often as required, and then more of them as long as they lead on. -/
def repeatedly (step : Place → List Way) : (least more : Nat) → Place → List Way
  | least + 1, more, place => goOn (step place) (repeatedly step least more)
  | 0, 0, place => [.stay place]
  | 0, more + 1, place =>
    goOn (step place) (fun onwards =>
      if onwards.after.length < place.after.length then repeatedly step 0 more onwards else []) ++
      [.stay place]

/-- The ways in which the pattern matches from a place on, the preferred one first. -/
def ways : Pattern → Place → List Way
  | .empty, place => [.stay place]
  | .chars _, ⟨_, []⟩ => []
  | .chars set, ⟨_, c :: text⟩ => if set.contains c.toNat then [.stay ⟨some c, text⟩] else []
  | .look requirement, place =>
    if requirement.holds place.before place.after.head? then [.stay place] else []
  | .sequence first second, place => goOn (ways first place) (ways second)
  | .either left right, place => ways left place ++ ways right place
  | .group false body, place => ways body place
  | .group true body, place =>
    (ways body place).map fun way => way.precededBy [way.passed place]
  | .repeated body least greatest, place =>
    repeatedly (ways body) least (greatest.getD (least + place.after.length) - least) place

/-- Going through a text from the left: the characters that are passed over, and what is captured by
the matches. -/
inductive Found (pattern : Pattern) : Place → List (Char ⊕ List (List Char)) → Prop where
  | nil {before : Option Char} : Found pattern ⟨before, []⟩ []
  | hit {place : Place} {way : Way} {others : List Way} {found : List (Char ⊕ List (List Char))}
      (first : pattern.ways place = way :: others)
      (onwards : way.place.after.length < place.after.length)
      (further : Found pattern way.place found) :
      Found pattern place (.inr way.captured :: found)
  | miss {before : Option Char} {c : Char} {text : List Char}
      {found : List (Char ⊕ List (List Char))} (none : pattern.ways ⟨before, c :: text⟩ = [])
      (further : Found pattern ⟨some c, text⟩ found) :
      Found pattern ⟨before, c :: text⟩ (.inl c :: found)

/-- What is found in a text is determined. -/
theorem Found.unique {pattern : Pattern} {place : Place}
    {found other : List (Char ⊕ List (List Char))} (one : pattern.Found place found)
    (another : pattern.Found place other) : found = other := by
  induction one generalizing other with
  | nil =>
    cases another with
    | nil => rfl
    | hit _ onwards => exact absurd onwards (Nat.not_lt_zero _)
  | hit first _ _ ih =>
    cases another with
    | nil => contradiction
    | hit again _ further =>
      rw [first] at again
      cases again
      exact congrArg (_ :: ·) (ih further)
    | miss none => exact absurd (first.symm.trans none) (List.cons_ne_nil _ _)
  | miss none _ ih =>
    cases another with
    | hit first => exact absurd (first.symm.trans none) (List.cons_ne_nil _ _)
    | miss _ further => exact congrArg (_ :: ·) (ih further)

/-! ## Single characters -/

theorem ways_chars_of_mem {set : CharSet} {c : Char} (member : set.contains c.toNat = true)
    (before : Option Char) (text : List Char) :
    ways (.chars set) ⟨before, c :: text⟩ = [.stay ⟨some c, text⟩] :=
  if_pos member

theorem ways_chars_eq_nil {set : CharSet} {before : Option Char} {text : List Char}
    (outside : ∀ c ∈ text.head?, set.contains c.toNat = false) :
    ways (.chars set) ⟨before, text⟩ = [] := by
  cases text with
  | nil => rfl
  | cons c text => exact if_neg (Bool.eq_false_iff.1 (outside c rfl))

theorem goOn_stay (place : Place) (next : Place → List Way) :
    goOn [.stay place] next = next place := by
  unfold goOn
  rw [List.flatMap_singleton]
  exact List.map_id' _

/-- A sequence that starts with a character of a set. -/
theorem ways_sequence_chars {set : CharSet} {c : Char} (member : set.contains c.toNat = true)
    (rest : Pattern) (before : Option Char) (text : List Char) :
    ways (.sequence (.chars set) rest) ⟨before, c :: text⟩ = ways rest ⟨some c, text⟩ := by
  rw [ways, ways_chars_of_mem member, goOn_stay]

theorem ways_sequence_chars_eq_nil {set : CharSet} {before : Option Char} {text : List Char}
    (outside : ∀ c ∈ text.head?, set.contains c.toNat = false) (rest : Pattern) :
    ways (.sequence (.chars set) rest) ⟨before, text⟩ = [] := by
  rw [ways, ways_chars_eq_nil outside]
  rfl

/-- **A repeated character is taken as often as it stands there**, when what comes after the
repetition cannot match in front of one. -/
theorem flatMap_repeatedly {set : CharSet} {body rest : List Char}
    (inside : ∀ c ∈ body, set.contains c.toNat = true)
    (outside : ∀ c ∈ rest.head?, set.contains c.toNat = false) {α : Type} {next : Way → List α}
    (fails : ∀ (before : Option Char) (c : Char) (text : List Char),
      set.contains c.toNat = true → next (.stay ⟨before, c :: text⟩) = [])
    {more : Nat} (enough : body.length ≤ more) (before : Option Char) :
    (repeatedly (ways (.chars set)) 0 more ⟨before, body ++ rest⟩).flatMap next =
      next (.stay ⟨body.getLast?.or before, rest⟩) := by
  induction body generalizing more before with
  | nil =>
    cases more with
    | zero =>
      rw [repeatedly, List.flatMap_singleton]
      rfl
    | succ more =>
      rw [repeatedly, List.nil_append, ways_chars_eq_nil outside]
      exact List.flatMap_singleton _ _
  | cons c body ih =>
    cases more with
    | zero => exact absurd enough (Nat.not_succ_le_zero _)
    | succ more =>
      have member := inside c List.mem_cons_self
      have shorter : (body ++ rest).length < (c :: (body ++ rest)).length := Nat.lt_succ_self _
      have last : (c :: body).getLast?.or before = body.getLast?.or (some c) := by
        cases body with
        | nil => rfl
        | cons d body => rw [List.getLast?_cons_cons, List.getLast?_eq_some_getLast (by simp)]; rfl
      rw [repeatedly, List.cons_append, ways_chars_of_mem member, goOn_stay, if_pos shorter,
        List.flatMap_append, List.flatMap_singleton,
        ih (fun d listed => inside d (List.mem_cons_of_mem c listed))
          (Nat.le_of_succ_le_succ enough), last]
      exact (congrArg (_ ++ ·) (fails before c _ member)).trans (List.append_nil _)

end CloudTemplate.Pattern

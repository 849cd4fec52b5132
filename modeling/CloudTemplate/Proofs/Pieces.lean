import CloudTemplate.Registry
import CloudTemplate.Proofs.Levels

/-!
# Cutting and joining

Joining the pieces of a text gives the text back, whatever the delimiter
(`Text.intercalate_splitOn`). Cutting what was joined gives the pieces back only if no delimiter is
found elsewhere than where one was put, and it is enough that no piece holds the first character of
the delimiter (`Text.splitOn_intercalate`): the search goes through a piece without a stop, finds
the delimiter after it, and passes over the whole of it, so that a delimiter that overlaps itself is
not found twice. Between a piece and the delimiter after it nothing can begin too early, for it
would have to begin in the piece.

`Strings.join_split_inverse` says this of the two functions of the template language. An empty
delimiter cuts a text into its characters.
-/

set_option autoImplicit false

namespace CloudTemplate

namespace Text

variable {c : Char} {lead : List Char}

/-- The search goes through a piece that does not hold the first character of the delimiter. -/
theorem splitFrom_append {part : List Char} (absent : c ∉ part) (piece rest : List Char) :
    splitFrom (c :: lead) 0 piece (part ++ rest) =
      splitFrom (c :: lead) 0 (part.reverse ++ piece) rest := by
  induction part generalizing piece with
  | nil => rfl
  | cons d part ih =>
    rw [List.mem_cons, not_or] at absent
    have elsewhere : after? (c :: lead) (d :: (part ++ rest)) = none := if_neg absent.1
    rw [List.cons_append, splitFrom, elsewhere, List.reverse_cons, List.append_assoc]
    exact ih absent.2 (d :: piece)

/-- What is to be passed over is passed over. -/
theorem splitFrom_skip (delimiter piece skipped rest : List Char) :
    splitFrom delimiter skipped.length piece (skipped ++ rest) =
      splitFrom delimiter 0 piece rest := by
  induction skipped with
  | nil => rfl
  | cons d skipped ih => exact ih

/-- A delimiter ends a piece, and the next piece begins after the whole of it. -/
theorem splitFrom_delimiter (piece rest : List Char) :
    splitFrom (c :: lead) 0 piece (c :: lead ++ rest) =
      piece.reverse :: splitFrom (c :: lead) 0 [] rest := by
  have found : after? (c :: lead) (c :: (lead ++ rest)) = some rest := after?_eq_some_iff.2 rfl
  rw [List.cons_append, splitFrom, found]
  exact congrArg (piece.reverse :: ·) (splitFrom_skip (c :: lead) [] lead rest)

/-- **Cutting what was joined gives the pieces back** if none of them holds the first character of
the delimiter. -/
theorem splitOn_intercalate {pieces : List (List Char)} (nonempty : pieces ≠ [])
    (absent : ∀ piece ∈ pieces, c ∉ piece) :
    splitOn (c :: lead) (intercalate (c :: lead) pieces) = pieces := by
  unfold splitOn
  induction pieces with
  | nil => exact absurd rfl nonempty
  | cons piece pieces ih =>
    rw [List.forall_mem_cons] at absent
    cases pieces with
    | nil =>
      have last : splitFrom (c :: lead) 0 [] (piece ++ []) = _ := splitFrom_append absent.1 [] []
      rw [List.append_nil, List.append_nil] at last
      rw [intercalate, last, splitFrom, List.reverse_reverse]
    | cons next pieces =>
      rw [intercalate_cons (List.cons_ne_nil next pieces), List.append_assoc,
        splitFrom_append absent.1, splitFrom_delimiter, List.append_nil, List.reverse_reverse,
        ih (List.cons_ne_nil next pieces) absent.2]

/-- Nothing between the characters of a text is the text. -/
theorem intercalate_singletons (text : List Char) :
    intercalate [] (text.map fun c => [c]) = text := by
  induction text with
  | nil => rfl
  | cons c text ih =>
    cases text with
    | nil => rfl
    | cons next text => exact congrArg (c :: ·) ih

end Text

namespace Strings

variable {answer : Value → Except Error Value} {call : Invocation}

/-- The two arguments of a call resolve to these values. -/
def Receives (call : Invocation) (answer : Value → Except Error Value)
    (first second : Value) : Prop :=
  ∃ one other, call.arguments = .list [one, other] ∧
    answer one = .ok first ∧ answer other = .ok second

/-- The pieces between the occurrences of a delimiter, or the characters if it is empty. -/
def piecesOf (delimiter text : String) : List (List Char) :=
  if delimiter = "" then text.toList.map fun c => [c]
  else Text.splitOn delimiter.toList text.toList

theorem twoArguments_eq {one other : Value} (written : call.arguments = .list [one, other]) :
    call.twoArguments = pure (one, other) := by
  unfold Invocation.twoArguments Invocation.argumentList
  rw [written]
  rfl

theorem outcome_bothKnown {first second : Value} (receives : Receives call answer first second)
    (known : call.isCall first = false) (known' : call.isCall second = false)
    (next : Value → Value → Program Value) :
    ((do let arguments ← call.twoArguments
         call.bothKnown arguments next : Program Value)).outcome answer =
      (next first second).outcome answer := by
  obtain ⟨one, other, written, resolved, resolved'⟩ := receives
  rw [twoArguments_eq written]
  exact (call.outcome_known resolved known _).trans (call.outcome_known resolved' known' _)

theorem outcome_bothKnown_kept {first second : Value}
    (receives : Receives call answer first second) (known : call.isCall first = false)
    (waiting : call.isCall second = true) (next : Value → Value → Program Value) :
    ((do let arguments ← call.twoArguments
         call.bothKnown arguments next : Program Value)).outcome answer = .ok call.node := by
  obtain ⟨one, other, written, resolved, resolved'⟩ := receives
  rw [twoArguments_eq written]
  exact (call.outcome_known resolved known _).trans (call.outcome_kept resolved' waiting _)

theorem outcome_split {delimiter text : String}
    (receives : Receives call answer (.string delimiter) (.string text)) :
    (split call).outcome answer =
      .ok (.list ((piecesOf delimiter text).map fun piece => .string (String.ofList piece))) :=
  outcome_bothKnown receives rfl rfl _

theorem outcome_join {delimiter : String} {pieces : List (List Char)}
    (receives : Receives call answer (.string delimiter)
      (.list (pieces.map fun piece => .string (String.ofList piece)))) :
    (join call).outcome answer =
      .ok (.string (String.ofList (Text.intercalate delimiter.toList pieces))) := by
  let parts : List Value := pieces.map fun piece => .string (String.ofList piece)
  have plain : parts.any call.containsCall = false := by
    rw [List.any_map]
    exact List.any_eq_false.2 fun _ _ => Bool.false_ne_true
  have texts : (parts.map fun part => part.text.toList) = pieces := by
    rw [List.map_map]
    exact (List.map_congr_left fun piece _ => String.toList_ofList).trans (List.map_id pieces)
  refine (outcome_bothKnown receives rfl rfl _).trans ?_
  change (if parts.any call.containsCall then call.keep
    else pure (.string (String.ofList
      (Text.intercalate delimiter.toList (parts.map fun part => part.text.toList)))) :
        Program Value).outcome answer = _
  rw [plain, texts]
  rfl

/-- Joining what was cut gives the text back, with the empty delimiter too. -/
theorem intercalate_piecesOf (delimiter text : String) :
    Text.intercalate delimiter.toList (piecesOf delimiter text) = text.toList := by
  unfold piecesOf
  split
  · next empty =>
    rw [empty]
    exact Text.intercalate_singletons text.toList
  · next nonempty =>
    exact Text.intercalate_splitOn (fun none => nonempty (String.toList_eq_nil_iff.1 none)) _

/-- **Joining and cutting are inverse.** Whoever cuts a text and joins the pieces with the same
delimiter gets the text; and whoever joins pieces with a delimiter whose first character is in none
of them, and cuts the text at the same delimiter, gets the pieces. -/
theorem join_split_inverse (delimiter : String) (call : Invocation)
    (answer : Value → Except Error Value) :
    (∀ text : String, Receives call answer (.string delimiter) (.string text) →
      ∃ pieces, (split call).outcome answer = .ok pieces ∧
        ∀ (outer : Invocation) (later : Value → Except Error Value),
          Receives outer later (.string delimiter) pieces →
            (join outer).outcome later = .ok (.string text)) ∧
    ∀ (c : Char) (lead : List Char) (pieces : List String), delimiter.toList = c :: lead →
      pieces ≠ [] → (∀ piece ∈ pieces, c ∉ piece.toList) →
      Receives call answer (.string delimiter) (.list (pieces.map .string)) →
        ∃ text, (join call).outcome answer = .ok (.string text) ∧
          ∀ (outer : Invocation) (later : Value → Except Error Value),
            Receives outer later (.string delimiter) (.string text) →
              (split outer).outcome later = .ok (.list (pieces.map .string)) := by
  constructor
  · intro text receives
    refine ⟨_, outcome_split receives, fun outer later received => ?_⟩
    rw [outcome_join received, intercalate_piecesOf, String.ofList_toList]
  · intro c lead pieces first several absent receives
    have texts : pieces.map Value.string =
        (pieces.map String.toList).map fun piece => .string (String.ofList piece) := by
      rw [List.map_map]
      exact List.map_congr_left fun piece _ => congrArg Value.string String.ofList_toList.symm
    rw [texts] at receives
    refine ⟨_, outcome_join receives, fun outer later received => ?_⟩
    have nonempty : delimiter ≠ "" := by
      rintro rfl
      cases first
    have cut : piecesOf delimiter (String.ofList
        (Text.intercalate delimiter.toList (pieces.map String.toList))) =
          pieces.map String.toList := by
      rw [piecesOf, if_neg nonempty, String.toList_ofList, first]
      refine Text.splitOn_intercalate (fun none => several (List.map_eq_nil_iff.1 none)) ?_
      exact List.forall_mem_map.2 absent
    rw [outcome_split received, cut, texts]

/-- Cuts at a delimiter that overlaps itself. -/
def cutAtArrow (text : Value) : Invocation :=
  ⟨"Fn::Split", "Split", .list [.string "é→é", text], ⟨Config.standard, [], .null⟩⟩

/-- Joins with the same delimiter. -/
def joinWithArrow (pieces : Value) : Invocation :=
  ⟨"Fn::Join", "Join", .list [.string "é→é", pieces], ⟨Config.standard, [], .null⟩⟩

/-- The cut of a text with two delimiters that overlap. -/
def cutArrows : Invocation :=
  cutAtArrow (.string "é→é→é")

/-- The join of pieces that are empty, or hold the rest of the delimiter. -/
def joinedArrows : Invocation :=
  joinWithArrow (.list (["", "→", "x→", ""].map .string))

/-- Of two delimiters that overlap the first one is found, and the other piece begins with the
rest. -/
theorem join_split_inverse_arrow :
    let answer := Resolver.outcome Registry.standard ⟨Config.standard, [], .null⟩
    (split cutArrows).outcome (answer 2) = .ok (.list [.string "", .string "→é"]) ∧
      (join (joinWithArrow cutArrows.node)).outcome (answer 3) = .ok (.string "é→é→é") ∧
      (join joinedArrows).outcome (answer 2) = .ok (.string "é→é→é→éx→é→é") ∧
      (split (cutAtArrow joinedArrows.node)).outcome (answer 3) =
        .ok (.list (["", "→", "x→", ""].map .string)) := by
  intro answer
  have delimiter : ∀ levels, answer (levels + 1) (.string "é→é") = .ok (.string "é→é") :=
    fun _ => rfl
  have isSplit : cutArrows.node.call? Config.standard =
      some (.function "Fn::Split" "Split" cutArrows.arguments) :=
    Value.call?_ofCall rfl (by decide) rfl _
  have isJoin : joinedArrows.node.call? Config.standard =
      some (.function "Fn::Join" "Join" joinedArrows.arguments) :=
    Value.call?_ofCall rfl (by decide) rfl _
  have inner : answer 3 cutArrows.node = (split cutArrows).outcome (answer 2) :=
    Resolver.outcome_function 2 isSplit rfl
  have inner' : answer 3 joinedArrows.node = (join joinedArrows).outcome (answer 2) :=
    Resolver.outcome_function 2 isJoin rfl
  obtain ⟨pieces, found, back⟩ :=
    (join_split_inverse "é→é" cutArrows (answer 2)).1 "é→é→é" ⟨_, _, rfl, delimiter 1, rfl⟩
  obtain ⟨text, found', back'⟩ := (join_split_inverse "é→é" joinedArrows (answer 2)).2
    'é' ['→', 'é'] ["", "→", "x→", ""] rfl (List.cons_ne_nil _ _) (by decide +kernel)
    ⟨_, _, rfl, delimiter 1, rfl⟩
  have overlapping : (split cutArrows).outcome (answer 2) =
      .ok (.list [.string "", .string "→é"]) := rfl
  have whole : (join joinedArrows).outcome (answer 2) = .ok (.string "é→é→é→éx→é→é") := rfl
  exact ⟨overlapping, back _ (answer 3) ⟨_, _, rfl, delimiter 2, inner.trans found⟩, whole,
    back' _ (answer 3) ⟨_, _, rfl, delimiter 2, inner'.trans found'⟩⟩

end Strings

end CloudTemplate

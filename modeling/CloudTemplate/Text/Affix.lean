/-!
# Texts inside texts

Searching, cutting and replacing one text inside another, on lists of characters.

`splitOn` cuts a text at every occurrence of a delimiter, from the left and without
overlap. Joining the pieces with the delimiter gives the text back (`intercalate_splitOn`),
and there is always a piece (`splitOn_ne_nil`). `replaceAll` puts another text where the
delimiter was.

A text is also cut after the longest part at its front whose characters are all of one kind: blanks,
digits, whatever is no closing brace. Where the text goes on with another character, that is the
whole part (`takeWhile_append_of_stops`), and it always does (`head_dropWhile`).
-/

set_option autoImplicit false

namespace CloudTemplate.Text

/-- What follows `lead` in `text`, if the text starts with it. -/
def after? : List Char → List Char → Option (List Char)
  | [], text => some text
  | _ :: _, [] => none
  | c :: lead, d :: text => if c = d then after? lead text else none

/-- A text starts with `lead` exactly when it is `lead` and something after it. -/
theorem after?_eq_some_iff {lead text rest : List Char} :
    after? lead text = some rest ↔ text = lead ++ rest := by
  induction lead generalizing text with
  | nil => simp [after?]
  | cons c lead ih =>
    cases text with
    | nil => simp [after?]
    | cons d text =>
      by_cases same : c = d
      · simp [after?, same, ih]
      · simp [after?, same, Ne.symm same]

section Front

variable {p : Char → Bool} {front rest : List Char}

theorem takeWhile_append_of_stops (all : ∀ c ∈ front, p c = true)
    (stops : ∀ c ∈ rest.head?, p c = false) : (front ++ rest).takeWhile p = front := by
  rw [List.takeWhile_append_of_pos all]
  cases rest with
  | nil => exact List.append_nil front
  | cons c rest =>
    rw [List.takeWhile_cons_of_neg (Bool.eq_false_iff.1 (stops c rfl)), List.append_nil]

theorem dropWhile_append_of_stops (all : ∀ c ∈ front, p c = true)
    (stops : ∀ c ∈ rest.head?, p c = false) : (front ++ rest).dropWhile p = rest := by
  rw [List.dropWhile_append_of_pos all]
  cases rest with
  | nil => rfl
  | cons c rest => exact List.dropWhile_cons_of_neg (Bool.eq_false_iff.1 (stops c rfl))

/-- What follows the part at the front starts with a character of another kind. -/
theorem head_dropWhile (p : Char → Bool) (text : List Char) :
    ∀ c ∈ (text.dropWhile p).head?, p c = false := by
  intro c first
  have stopped := List.head?_dropWhile_not p text
  rwa [Option.mem_def.1 first] at stopped

end Front

/-- Cuts `text` at every occurrence of `delimiter`. `piece` holds, in reverse, what has been
read of the current piece, and `skip` counts the characters of a delimiter still to be
passed over. -/
def splitFrom (delimiter : List Char) :
    (skip : Nat) → (piece text : List Char) → List (List Char)
  | _, piece, [] => [piece.reverse]
  | skip + 1, piece, _ :: text => splitFrom delimiter skip piece text
  | 0, piece, c :: text =>
    if (after? delimiter (c :: text)).isSome then
      piece.reverse :: splitFrom delimiter (delimiter.length - 1) [] text
    else
      splitFrom delimiter 0 (c :: piece) text

/-- The pieces of `text` between the occurrences of a non-empty `delimiter`, which are looked
for from the left and do not overlap. -/
def splitOn (delimiter text : List Char) : List (List Char) :=
  splitFrom delimiter 0 [] text

/-- The pieces, with `delimiter` between each two of them. -/
def intercalate (delimiter : List Char) : List (List Char) → List Char
  | [] => []
  | [piece] => piece
  | piece :: next :: pieces => piece ++ delimiter ++ intercalate delimiter (next :: pieces)

/-- The text with `new` in the place of every occurrence of `old`. An empty `old` occurs
before every character and at the end. -/
def replaceAll (old new text : List Char) : List Char :=
  match old with
  | [] => new ++ text.flatMap (fun c => c :: new)
  | _ :: _ => intercalate new (splitOn old text)

/-- The words of a text, which are separated by spaces and line ends. -/
def words (text : List Char) : List (List Char) :=
  (splitOn [' '] (text.map fun c => if c = '\n' then ' ' else c)).filter (· ≠ [])

theorem splitFrom_ne_nil (delimiter : List Char) (skip : Nat) (piece text : List Char) :
    splitFrom delimiter skip piece text ≠ [] := by
  induction text generalizing skip piece with
  | nil => cases skip <;> simp [splitFrom]
  | cons c text ih =>
    cases skip with
    | zero => unfold splitFrom; split <;> simp [ih]
    | succ skip => exact ih skip piece

/-- There is always a piece, if only the empty one. -/
theorem splitOn_ne_nil (delimiter text : List Char) : splitOn delimiter text ≠ [] :=
  splitFrom_ne_nil delimiter 0 [] text

theorem intercalate_cons {delimiter piece : List Char} {pieces : List (List Char)}
    (h : pieces ≠ []) :
    intercalate delimiter (piece :: pieces) =
      piece ++ delimiter ++ intercalate delimiter pieces := by
  cases pieces with
  | nil => exact absurd rfl h
  | cons next pieces => rfl

/-- Joining what cutting left behind, the delimiter that is being passed over aside. -/
theorem intercalate_splitFrom {delimiter : List Char} (nonempty : delimiter ≠ []) (skip : Nat)
    (piece text : List Char) :
    intercalate delimiter (splitFrom delimiter skip piece text) =
      piece.reverse ++ text.drop skip := by
  induction text generalizing skip piece with
  | nil => cases skip <;> simp [splitFrom, intercalate]
  | cons c text ih =>
    cases skip with
    | succ skip => simpa [splitFrom] using ih skip piece
    | zero =>
      unfold splitFrom
      split
      · next found =>
        obtain ⟨rest, here⟩ := Option.isSome_iff_exists.1 found
        rw [after?_eq_some_iff] at here
        rw [intercalate_cons (splitFrom_ne_nil _ _ _ _), ih]
        obtain ⟨d, lead, rfl⟩ := List.exists_cons_of_ne_nil nonempty
        simp only [List.cons_append, List.cons.injEq] at here
        simp [here.1, here.2]
      · rw [ih]
        simp

/-- Joining the pieces with the delimiter gives the text back. -/
theorem intercalate_splitOn {delimiter : List Char} (nonempty : delimiter ≠ [])
    (text : List Char) : intercalate delimiter (splitOn delimiter text) = text := by
  simp [splitOn, intercalate_splitFrom nonempty]

end CloudTemplate.Text

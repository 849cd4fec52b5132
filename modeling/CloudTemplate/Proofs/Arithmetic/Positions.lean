import CloudTemplate.Proofs.Arithmetic.Following

/-!
# Positions of faults

Faults are reported with byte offsets into the trimmed text. They are right (`Placed`), and the
parser that moves a cursor over the bytes of the text never cuts it inside a character
(`evaluate_placed`). A text that is rejected keeps what its fault says at the place of the fault
(`Rejects.shown`), and what stands before the place can be completed (`Rejects.located`); the offset
is the size of what stands before.
-/

set_option autoImplicit false

namespace CloudTemplate.Arithmetic

/-- What the fault of a text says about the text at its byte. -/
structure Placed (text : List Char) (result : Except (Fault Nat) Float) (cursor : Cursor) :
    Prop where
  /-- The cursor has only stood between characters. -/
  boundary : ∀ place ∈ cursor.place :: cursor.passed, Text.IsBoundary text place
  /-- The text can be completed up to an unexpected character, but not with it. -/
  character : ∀ c place, result = .error (.unexpectedCharacter c place) → ∃ front rest,
    text = front ++ c :: rest ∧ Text.utf8Size front = place ∧ Viable (.chain .sum) front ∧
      ¬Viable (.chain .sum) (front ++ [c])
  /-- All digits and points from the place on are no number. -/
  number : ∀ literal place, result = .error (.invalidNumber literal place) →
    ∃ front digits rest, text = front ++ (digits ++ rest) ∧ Text.utf8Size front = place ∧
      literal = String.ofList digits ∧ digits ≠ [] ∧ (∀ c ∈ digits, isPart c = true) ∧
      (∀ c ∈ rest.head?, isPart c = false) ∧ ¬IsNumber digits
  /-- A parenthesis is opened before the place, and it is not closed there. -/
  parenthesis : ∀ place, result = .error (.missingParenthesis place) → ∃ front rest,
    text = front ++ rest ∧ Text.utf8Size front = place ∧ Unclosed front ∧ rest.head? ≠ some ')'
  /-- The text ends too early only at its end. -/
  consumed : result = .error .unexpectedEnd → cursor.place = Text.utf8Size text

/-- A text that has a fault of its form is rejected with the fault. -/
theorem rejects_of_evaluate {text : String} {fault : Fault Nat}
    (failed : evaluate text = .error fault) (syntactic : fault.isSyntactic = true) :
    ∃ rejected : Fault (List Char), Rejects (Text.trim text.toList) rejected ∧
      rejected.map (position (Text.trim text.toList)) = fault := by
  rcases evaluateTrimmed_cases fun body blanks blank => Text.eq_nil_of_trim_eq_append blank with
    ⟨expression, written, defined, -⟩ | ⟨met, halts, -⟩ | ⟨rejected, outcome, rejects⟩
  · rw [evaluate_of_writtenAs written, defined.result_eq] at failed
    cases failed
  · rw [evaluate_of_haltsAt halts] at failed
    cases failed
    rw [met.isSyntactic_fault] at syntactic
    cases syntactic
  · rw [evaluate, outcome] at failed
    exact ⟨rejected, rejects, Except.error.inj failed⟩

section Rejected

variable {text place : List Char}

/-- An unexpected character is the first one with which the text cannot be completed. -/
theorem Rejects.character {c : Char} (rejects : Rejects text (.unexpectedCharacter c place)) :
    ∃ front rest, text = front ++ c :: rest ∧ Text.utf8Size front = position text place ∧
      Viable (.chain .sum) front ∧ ¬Viable (.chain .sum) (front ++ [c]) := by
  obtain ⟨-, rest, rfl⟩ := rejects.shown
  obtain ⟨front, rfl, viable, -, persists⟩ := rejects.located
  exact ⟨front, rest, rfl, (position_append front (c :: rest)).symm, viable,
    not_viable (persists c rest rfl)⟩

/-- What is no number are all digits and points from the place on. -/
theorem Rejects.number {literal : String} (rejects : Rejects text (.invalidNumber literal place)) :
    ∃ front digits rest, text = front ++ (digits ++ rest) ∧
      Text.utf8Size front = position text place ∧ literal = String.ofList digits ∧ digits ≠ [] ∧
      (∀ c ∈ digits, isPart c = true) ∧ (∀ c ∈ rest.head?, isPart c = false) ∧
      ¬IsNumber digits := by
  obtain ⟨rfl, nonempty, unread⟩ := rejects.shown
  obtain ⟨front, rfl, -⟩ := rejects.located
  have parts : ∀ c ∈ place.takeWhile isPart, isPart c = true :=
    List.all_eq_true.1 List.all_takeWhile
  refine ⟨front, place.takeWhile isPart, place.dropWhile isPart, ?_,
    (position_append front place).symm, rfl, nonempty, parts, Text.head_dropWhile isPart place,
    fun number => ?_⟩
  · rw [List.takeWhile_append_dropWhile]
    rfl
  · have read := (unsigned?_isSome_iff parts).2 number
    rw [unread] at read
    cases read

/-- Where a closing parenthesis is missing, there is none, and one is needed. -/
theorem Rejects.parenthesis (rejects : Rejects text (.missingParenthesis place)) :
    ∃ front rest, text = front ++ rest ∧ Text.utf8Size front = position text place ∧
      Unclosed front ∧ rest.head? ≠ some ')' := by
  obtain ⟨front, rfl, -, unclosed, -⟩ := rejects.located
  exact ⟨front, place, rfl, (position_append front place).symm, unclosed place rfl, rejects.shown⟩

end Rejected

/-- **The parser with a cursor does what evaluation does**, and its cursor ends up between
characters, behind all of them when the text ends too early. -/
theorem parse_evaluates (text : String) :
    ∃ cursor rest,
      (Cursor.parse (Text.trim text.toList)).run.run {} = some (evaluate text, cursor) ∧
      Cursor.At (Text.trim text.toList) rest cursor ∧
      (evaluate text = .error .unexpectedEnd → rest = []) := by
  have start : Cursor.At (Text.trim text.toList) (Text.trim text.toList) {} :=
    ⟨⟨[], rfl, rfl⟩, nofun⟩
  obtain ⟨result, cursor, rest, run, there, agrees⟩ := Cursor.parse_follows _ _ start
  refine ⟨cursor, rest, ?_⟩
  unfold evaluate
  dsimp only
  generalize evaluateTrimmed (Text.trim text.toList) = outcome at agrees
  cases outcome with
  | ok x =>
    cases agrees
    exact ⟨run, there, nofun⟩
  | error fault =>
    cases agrees with
    | failed ended =>
      refine ⟨run, there, fun failed => ended ?_⟩
      cases fault <;> cases failed
      rfl

/-- **Positions of faults are right, and the text is never cut inside a character.** -/
theorem evaluate_placed (text : String) :
    ∃ cursor, (Cursor.parse (Text.trim text.toList)).run.run {} = some (evaluate text, cursor) ∧
      Placed (Text.trim text.toList) (evaluate text) cursor := by
  obtain ⟨cursor, rest, run, there, ended⟩ := parse_evaluates text
  refine ⟨cursor, run, there.isBoundary, fun c place failed => ?_, fun literal place failed => ?_,
    fun place failed => ?_, fun failed => ?_⟩
  · obtain ⟨fault, rejects, same⟩ := rejects_of_evaluate failed rfl
    cases fault <;> cases same
    exact rejects.character
  · obtain ⟨fault, rejects, same⟩ := rejects_of_evaluate failed rfl
    cases fault <;> cases same
    exact rejects.number
  · obtain ⟨fault, rejects, same⟩ := rejects_of_evaluate failed rfl
    cases fault <;> cases same
    exact rejects.parenthesis
  · obtain rfl := ended failed
    obtain ⟨front, split, size⟩ := there.before
    rw [← size, split, List.append_nil]

/-- The ideographic space has three bytes. -/
example : evaluate "1 +\u3000x" = .error (.unexpectedCharacter 'x' 6) :=
  rfl

end CloudTemplate.Arithmetic

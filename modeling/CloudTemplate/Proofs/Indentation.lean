import Mathlib.Data.String.Basic
import CloudTemplate.Proofs.Pieces
import CloudTemplate.Proofs.Utf8

/-!
# Indentation

A text that is indented has the lines of the text, each behind as many spaces. Before any space is
written, the size of the result is computed from the number of lines, with numbers of 64 bits, and
compared with the limit of the configuration. That this rules out nothing but results that really
are too long (`Strings.all_indentedSize?_iff`) depends on two things: a size that cannot be counted
is above every limit, and the lines of the result add up to what was computed
(`Strings.utf8Len_indentLines`).

The result is cut at the same places as the text, since spaces are no line ends
(`Strings.splitOn_indentLines`). So nothing is lost: without the spaces of each line the result is
the text (`Strings.indent_exact`).
-/

set_option autoImplicit false

namespace CloudTemplate

namespace Text

variable {c : Char} {text : List Char}

/-! ## Lines -/

theorem intercalate_eq (delimiter : List Char) (pieces : List (List Char)) :
    intercalate delimiter pieces = delimiter.intercalate pieces := by
  induction pieces with
  | nil => rfl
  | cons piece pieces ih =>
    cases pieces with
    | nil => exact List.intercalate_singleton.symm
    | cons next pieces => rw [intercalate, ih, List.intercalate_cons_cons]

theorem length_splitOn (c : Char) (text : List Char) :
    (text.splitOn c).length = text.count c + 1 := by
  induction text with
  | nil => rfl
  | cons d text ih =>
    rw [List.splitOn_cons_eq_if_modifyHead, List.count_cons]
    split <;> simp [ih]

/-- A line holds no line end. -/
theorem not_mem_of_mem_splitOn {piece : List Char} (member : piece ∈ text.splitOn c) :
    c ∉ piece := by
  induction text generalizing piece with
  | nil =>
    rw [List.splitOn_nil, List.mem_singleton] at member
    rw [member]
    exact List.not_mem_nil
  | cons d text ih =>
    rw [List.splitOn_cons_eq_if_modifyHead] at member
    split at member
    · rcases List.mem_cons.1 member with rfl | member
      · exact List.not_mem_nil
      · exact ih member
    · next differs =>
      obtain ⟨first, pieces, cut⟩ := List.exists_cons_of_ne_nil (List.splitOn_ne_nil c text)
      rw [cut] at ih
      rw [cut, List.modifyHead_cons] at member
      rcases List.mem_cons.1 member with rfl | member
      · simp only [beq_iff_eq] at differs
        simp [Ne.symm differs, ih List.mem_cons_self]
      · exact ih (List.mem_cons_of_mem first member)

/-- A text is cut at a single character as the library cuts lists. -/
theorem splitOn_eq (c : Char) (text : List Char) : splitOn [c] text = text.splitOn c := by
  calc splitOn [c] text
    _ = splitOn [c] (intercalate [c] (text.splitOn c)) := by
      rw [intercalate_eq, List.intercalate_splitOn]
    _ = text.splitOn c :=
      splitOn_intercalate (List.splitOn_ne_nil c text) fun _ => not_mem_of_mem_splitOn

/-! ## Sizes -/

theorem utf8Len_spaces (count : Nat) : String.utf8Len (List.replicate count ' ') = count := by
  induction count with
  | zero => rfl
  | succ count ih => rw [List.replicate_succ, String.utf8Len_cons, ih]; rfl

/-- A text in front of every piece adds its size once for each. -/
theorem utf8Len_intercalate_map (delimiter lead : List Char) (pieces : List (List Char)) :
    String.utf8Len (delimiter.intercalate (pieces.map (lead ++ ·))) =
      String.utf8Len (delimiter.intercalate pieces) + String.utf8Len lead * pieces.length := by
  induction pieces with
  | nil => rfl
  | cons piece pieces ih =>
    cases pieces with
    | nil => simp [Nat.add_comm]
    | cons next pieces =>
      simp only [List.map_cons, List.intercalate_cons_cons, String.utf8Len_append,
        List.length_cons, Nat.mul_add] at ih ⊢
      omega

end Text

namespace Strings

variable {answer : Value → Except Error Value} {call : Invocation}

/-! ## The lines of the result -/

theorem indentLines_eq (count : Nat) (text : List Char) :
    indentLines count text =
      ['\n'].intercalate ((text.splitOn '\n').map (List.replicate count ' ' ++ ·)) := by
  rw [indentLines, Text.intercalate_eq, Text.splitOn_eq]

/-- The lines of the result are those of the text behind spaces. -/
theorem splitOn_indentLines (count : Nat) (text : List Char) :
    (indentLines count text).splitOn '\n' =
      (text.splitOn '\n').map (List.replicate count ' ' ++ ·) := by
  rw [indentLines_eq]
  refine List.splitOn_intercalate '\n' ?_ (by simp [List.splitOn_ne_nil])
  refine List.forall_mem_map.2 fun line member => ?_
  simp [Text.not_mem_of_mem_splitOn member]

/-! ## The size of the result -/

theorem utf8Len_indentLines (count : Nat) (text : List Char) :
    String.utf8Len (indentLines count text) =
      String.utf8Len text + count * (text.count '\n' + 1) := by
  rw [indentLines_eq, Text.utf8Len_intercalate_map, List.intercalate_splitOn, Text.utf8Len_spaces,
    Text.length_splitOn]

theorem counted?_eq (size : Nat) : counted? size = if size < 2 ^ 64 then some size else none :=
  rfl

theorem all_counted?_iff {limit : Nat} (limited : limit < 2 ^ 64) (size : Nat) :
    (counted? size).all (limit < ·) = true ↔ limit < size := by
  rw [counted?_eq]
  split
  · rw [Option.all_some, decide_eq_true_iff]
  · rw [Option.all_none]
    exact iff_of_true rfl (by omega)

/-- **The limit is exceeded** by the size that was computed exactly when the size without any bound
exceeds it. -/
theorem all_indentedSize?_iff {limit : Nat} (limited : limit < 2 ^ 64) (count : Nat)
    (text : List Char) :
    (indentedSize? count text).all (limit < ·) = true ↔
      limit < String.utf8Len text + count * (text.count '\n' + 1) := by
  rw [indentedSize?, Text.splitOn_eq, Text.length_splitOn, Text.utf8Size_eq]
  -- Neither of the two steps depends on how the number of spaces comes about.
  generalize count * (text.count '\n' + 1) = padding
  rw [Nat.add_comm (String.utf8Len text)]
  by_cases fits : padding < 2 ^ 64
  · have found : counted? padding = some padding := if_pos fits
    rw [found]
    exact all_counted?_iff limited _
  · have none : counted? padding = none := if_neg fits
    rw [none]
    exact iff_of_true rfl (by omega)

/-! ## Indentation -/

/-- The second text is the first one with so many spaces in front of every line. -/
structure Indents (count : Nat) (text indented : String) : Prop where
  size : indented.utf8ByteSize = text.utf8ByteSize + count * (text.toList.count '\n' + 1)
  lines : (indented.toList.splitOn '\n').length = (text.toList.splitOn '\n').length
  spaces : ∀ line ∈ indented.toList.splitOn '\n', line.take count = List.replicate count ' '
  removed : ['\n'].intercalate ((indented.toList.splitOn '\n').map (List.drop count)) =
    text.toList

theorem indents_indentLines (count : Nat) (text : String) :
    Indents count text (String.ofList (indentLines count text.toList)) where
  size := by rw [String.utf8ByteSize_ofList, utf8Len_indentLines, String.utf8Len_toList]
  lines := by rw [String.toList_ofList, splitOn_indentLines, List.length_map]
  spaces := by
    rw [String.toList_ofList, splitOn_indentLines]
    refine List.forall_mem_map.2 fun line _ => ?_
    exact List.take_left' List.length_replicate
  removed := by
    have dropped : ∀ line : List Char, (List.replicate count ' ' ++ line).drop count = line :=
      fun line => List.drop_left' List.length_replicate
    rw [String.toList_ofList, splitOn_indentLines, List.map_map]
    simp [Function.comp_def, dropped, List.intercalate_splitOn]

/-- What indentation results in, with the size of the text without any bound. -/
theorem outcome_indent {count : Int64} {source : Value}
    (receives : Receives call answer (.int count) source) (known : call.isCall source = false)
    (limited : call.scope.config.maxStringLength < 2 ^ 64) :
    (indent call).outcome answer =
      if count.toInt < 0 then .error (.invalidArguments call.key (.negativeIndent count))
      else if call.scope.config.maxStringLength <
          source.text.utf8ByteSize + count.toInt.toNat * (source.text.toList.count '\n' + 1) then
        .error (.invalidArguments call.key
          (.indentTooLong count.toInt.toNat call.scope.config.maxStringLength))
      else .ok (.string (String.ofList (indentLines count.toInt.toNat source.text.toList))) := by
  refine (outcome_bothKnown receives rfl known _).trans ?_
  have sign : count < 0 ↔ count.toInt < 0 := Int64.lt_iff_toInt_lt
  have exceeds := all_indentedSize?_iff limited count.toInt.toNat source.text.toList
  rw [String.utf8Len_toList] at exceeds
  -- The sign of the count is looked at before the size, so that a size is of a natural number.
  by_cases negative : count.toInt < 0
  · have refused : indentCount call (.int count) = call.refuse (.negativeIndent count) :=
      if_pos (sign.2 negative)
    rw [refused, if_pos negative]
    rfl
  · have counted : indentCount call (.int count) = pure count.toInt.toNat :=
      if_neg (mt sign.1 negative)
    rw [counted, if_neg negative]
    change (if (indentedSize? count.toInt.toNat source.text.toList).all
        (call.scope.config.maxStringLength < ·) then _ else _ : Program Value).outcome answer = _
    by_cases long : call.scope.config.maxStringLength <
        source.text.utf8ByteSize + count.toInt.toNat * (source.text.toList.count '\n' + 1)
    · rw [if_pos (exceeds.2 long), if_pos long]
      rfl
    · rw [if_neg (mt exceeds.1 long), if_neg long]
      rfl

/-- **Indentation is exact and loses nothing.** With a limit of 64 bits, a text is indented exactly
when the number of spaces is not negative and the size of the result, over unbounded integers, is
within the limit; otherwise the arguments are refused. The result has this size and as many lines as
the text, and without the spaces in front of each line it is the text. -/
theorem indent_exact {count : Int64} {source : Value}
    (receives : Receives call answer (.int count) source) (known : call.isCall source = false)
    (limited : call.scope.config.maxStringLength < 2 ^ 64) :
    ((∃ result, (indent call).outcome answer = .ok result) ↔
      0 ≤ count.toInt ∧ (source.text.utf8ByteSize : Int) +
        count.toInt * (source.text.toList.count '\n' + 1) ≤ call.scope.config.maxStringLength) ∧
    (∀ error, (indent call).outcome answer = .error error →
      ∃ fault, error = .invalidArguments call.key fault) ∧
    ∀ result, (indent call).outcome answer = .ok result →
      ∃ indented, result = .string indented ∧
        Indents count.toInt.toNat source.text indented := by
  rw [outcome_indent receives known limited]
  split
  · next negative =>
    refine ⟨iff_of_false nofun (by omega), fun error refused => ?_, nofun⟩
    exact ⟨_, (Except.error.inj refused).symm⟩
  · next natural =>
    have size : (source.text.utf8ByteSize : Int) +
        count.toInt * (source.text.toList.count '\n' + 1) =
          (source.text.utf8ByteSize +
            count.toInt.toNat * (source.text.toList.count '\n' + 1) : Nat) := by
      push_cast
      rw [Int.toNat_of_nonneg (by omega)]
    rw [size, Int.ofNat_le]
    split
    · next long =>
      refine ⟨iff_of_false nofun (by omega), fun error refused => ?_, nofun⟩
      exact ⟨_, (Except.error.inj refused).symm⟩
    · next short =>
      refine ⟨iff_of_true ⟨_, rfl⟩ (by omega), nofun, fun result found => ?_⟩
      exact ⟨_, (Except.ok.inj found).symm, indents_indentLines _ _⟩

/-- Two letters of two bytes each, with an empty line between them and at the end. -/
def letters : String :=
  "é\n\nü\n"

/-- Indents the letters. -/
def indentLetters (count : Int64) (limit : Nat) : Invocation :=
  ⟨"Fn::Indent", "Indent", .list [.int count, .string letters],
    ⟨{ Config.standard with maxStringLength := limit }, [], .null⟩⟩

/-- With two spaces on four lines the letters have 15 bytes and no less, and spaces that cannot be
counted are not written. -/
theorem indent_exact_letters :
    let answer := Resolver.outcome Registry.standard ⟨Config.standard, [], .null⟩ 1
    (indent (indentLetters 2 15)).outcome answer = .ok (.string "  é\n  \n  ü\n  ") ∧
      Indents 2 letters "  é\n  \n  ü\n  " ∧
      (∃ fault, (indent (indentLetters 2 14)).outcome answer =
        .error (.invalidArguments "Fn::Indent" fault)) ∧
      ∃ fault, (indent (indentLetters Int64.maxValue (2 ^ 64 - 1))).outcome answer =
        .error (.invalidArguments "Fn::Indent" fault) := by
  intro answer
  have receives : ∀ count limit,
      Receives (indentLetters count limit) answer (.int count) (.string letters) :=
    fun _ _ => ⟨_, _, rfl, rfl, rfl⟩
  have exact : ∀ (count : Int64) (limit : Nat), limit < 2 ^ 64 → _ :=
    fun count limit limited => indent_exact (receives count limit) rfl limited
  have refused : ∀ (count : Int64) (limit : Nat), limit < 2 ^ 64 →
      (limit : Int) < letters.utf8ByteSize + count.toInt * (letters.toList.count '\n' + 1) →
        ∃ fault, (indent (indentLetters count limit)).outcome answer =
          .error (.invalidArguments "Fn::Indent" fault) := by
    intro count limit limited long
    obtain ⟨fits, refuses, _⟩ := exact count limit limited
    cases found : (indent (indentLetters count limit)).outcome answer with
    | error error =>
      obtain ⟨fault, rfl⟩ := refuses error found
      exact ⟨fault, rfl⟩
    | ok result => exact absurd (fits.1 ⟨result, found⟩).2 (Int.not_le.2 long)
  have found : (indent (indentLetters 2 15)).outcome answer =
      .ok (.string "  é\n  \n  ü\n  ") := rfl
  obtain ⟨indented, same, indents⟩ := (exact 2 15 (by decide)).2.2 _ found
  cases same
  exact ⟨found, indents, refused 2 14 (by decide) (by decide),
    refused Int64.maxValue (2 ^ 64 - 1) (by decide) (by decide)⟩

end Strings

end CloudTemplate

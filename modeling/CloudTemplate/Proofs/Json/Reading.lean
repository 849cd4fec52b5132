import CloudTemplate.Proofs.Json.Tokens

/-!
# Documents are read back

The compact form of a document is read back to the document (`readRaw_compact`), if its numbers are
integers and no more than 127 arrays and objects stand inside each other (`Legible`). The reader
goes down on the nesting that is left, and so does the induction (`Reader.value_readsBack`). It
needs to know of every document inside that it is read back whatever follows it in the text
(`Reader.ReadsBack`), and that it does not start with a blank or with a closing bracket, which would
be taken for the end of an empty array (`exists_print_eq_cons`).
-/

set_option autoImplicit false

namespace CloudTemplate.Json

/-- All numbers in the document are integers that fit, and so many arrays and objects stand inside
each other at most. -/
def Legible : (nesting : Nat) → Json → Prop
  | _, .number (.integer n) => Fits n
  | _, .number (.real _) => False
  | 0, .array _ => False
  | 0, .object _ => False
  | nesting + 1, .array items => ∀ item ∈ items, Legible nesting item
  | nesting + 1, .object entries => ∀ entry ∈ entries, Legible nesting entry.2
  | _, _ => True

/-- Legible numbers are integers. -/
theorem exists_integer_of_legible {nesting : Nat} {n : Number}
    (legible : (Json.number n).Legible nesting) :
    ∃ m, n = .integer m ∧ Fits m := by
  cases n with
  | real x => cases nesting <;> exact legible.elim
  | integer m => cases nesting <;> exact ⟨m, rfl, legible⟩

/-! ## Beginnings -/

/-- A character that is not taken for something else at the beginning of a document. -/
structure Starts (c : Char) : Prop where
  visible : isGap c = false
  opening : c ≠ ']'

/-- A number does not start with a character that is neither a sign nor a digit. -/
theorem ne_of_number {c d : Char} (start : c = '-' ∨ Decimal.isDigit c = true)
    (other : d ≠ '-' ∧ Decimal.isDigit d = false) : c ≠ d := by
  rintro rfl
  rcases start with minus | digit
  · exact other.1 minus
  · rw [other.2] at digit
    cases digit

theorem starts_of_number {c : Char} (start : c = '-' ∨ Decimal.isDigit c = true) : Starts c := by
  refine ⟨Bool.eq_false_iff.2 fun gap => ?_, ne_of_number start (by decide)⟩
  simp only [isGap, Bool.or_eq_true, beq_iff_eq] at gap
  rcases gap with ((same | same) | same) | same <;> exact ne_of_number start (by decide) same

theorem exists_print_eq_cons {nesting : Nat} {document : Json}
    (legible : document.Legible nesting) : ∃ c text, document.print = c :: text ∧ Starts c := by
  cases document with
  | null => exact ⟨'n', _, rfl, rfl, by decide⟩
  | bool b => cases b <;> exact ⟨_, _, rfl, rfl, by decide⟩
  | string s => exact ⟨'"', _, rfl, rfl, by decide⟩
  | array items => exact ⟨'[', _, rfl, rfl, by decide⟩
  | object entries => exact ⟨'\x7b', _, rfl, rfl, by decide⟩
  | number n =>
    obtain ⟨n, rfl, _⟩ := exists_integer_of_legible legible
    obtain ⟨c, text, written, start⟩ := Reader.exists_toString_eq_cons n
    exact ⟨c, text, written, starts_of_number start⟩

theorem skipGap_cons {c : Char} (text : List Char) (visible : isGap c = false) :
    skipGap (c :: text) = c :: text :=
  List.dropWhile_cons_of_neg (by rw [visible]; exact Bool.false_ne_true)

theorem skipGap_print {nesting : Nat} {document : Json} (legible : document.Legible nesting)
    (rest : List Char) : skipGap (document.print ++ rest) = document.print ++ rest := by
  obtain ⟨c, text, written, starts⟩ := exists_print_eq_cons legible
  rw [written]
  exact skipGap_cons _ starts.visible

theorem skipGap_printString (s : String) (rest : List Char) :
    skipGap (printString s ++ rest) = printString s ++ rest := rfl

theorem exists_printItems_eq_cons {nesting : Nat} {first : Json} (items : List Json)
    (legible : first.Legible nesting) (rest : List Char) :
    ∃ c text, printItems (first :: items) ++ rest = c :: text ∧ Starts c := by
  obtain ⟨c, text, written, starts⟩ := exists_print_eq_cons legible
  cases items with
  | nil => exact ⟨c, text ++ rest, by rw [printItems, written, List.cons_append], starts⟩
  | cons next items =>
    refine ⟨c, text ++ (',' :: printItems (next :: items) ++ rest), ?_, starts⟩
    rw [printItems, written, List.append_assoc, List.cons_append]

theorem exists_printEntries_eq_cons (first : String × Json) (entries : List (String × Json))
    (rest : List Char) : ∃ text, printEntries (first :: entries) ++ rest = '"' :: text := by
  cases entries with
  | nil => exact ⟨_, rfl⟩
  | cons next entries => exact ⟨_, rfl⟩

/-! ## Lengths -/

theorem length_le_printItems (items : List Json) :
    items.length ≤ (printItems items).length + 1 := by
  match items with
  | [] => exact Nat.zero_le _
  | [item] => exact Nat.le_add_left _ _
  | item :: next :: items =>
    have rest := length_le_printItems (next :: items)
    simp only [printItems, List.length_append, List.length_cons] at rest ⊢
    omega

theorem length_print_le_printItems {item : Json} {items : List Json} (member : item ∈ items) :
    item.print.length ≤ (printItems items).length := by
  match items with
  | [only] =>
    cases List.mem_singleton.1 member
    exact Nat.le_refl _
  | first :: next :: items =>
    rw [printItems, List.length_append, List.length_cons]
    rcases List.mem_cons.1 member with rfl | later
    · omega
    · have rest := length_print_le_printItems later
      omega

theorem length_le_printEntries (entries : List (String × Json)) :
    entries.length ≤ (printEntries entries).length + 1 := by
  match entries with
  | [] => exact Nat.zero_le _
  | [entry] => exact Nat.le_add_left _ _
  | (key, value) :: next :: entries =>
    have rest := length_le_printEntries (next :: entries)
    simp only [printEntries, List.length_append, List.length_cons] at rest ⊢
    omega

theorem length_print_le_printEntries {entry : String × Json} {entries : List (String × Json)}
    (member : entry ∈ entries) : entry.2.print.length ≤ (printEntries entries).length := by
  match entries with
  | [(key, value)] =>
    cases List.mem_singleton.1 member
    simp only [printEntries, List.length_append, List.length_cons]
    omega
  | (key, value) :: next :: entries =>
    simp only [printEntries, List.length_append, List.length_cons]
    rcases List.mem_cons.1 member with rfl | later
    · dsimp only
      omega
    · have rest := length_print_le_printEntries later
      omega

namespace Reader

/-- The reader takes the document off the front of a text, whatever follows. -/
def ReadsBack (reader : Reader Json) (document : Json) : Prop :=
  ∀ rest, Ends rest → reader (document.print ++ rest) = .ok (document, rest)

/-! ## Scalars -/

theorem string_printString (s : String) (rest : List Char) :
    ∃ text, printString s ++ rest = '"' :: text ∧ string text = .ok (s, rest) := by
  refine ⟨s.toList.flatMap escape ++ '"' :: rest, ?_, string_flatMap_escape s rest⟩
  simp [printString]

theorem scalar_number {c : Char} (start : c = '-' ∨ Decimal.isDigit c = true) (text : List Char) :
    scalar (c :: text) = (number (c :: text)).map fun (read, rest) => (.number read, rest) := by
  unfold scalar
  split
  · next same => cases same
  · next same => exact absurd (List.cons.inj same).1 (ne_of_number start (by decide))
  · next same => exact absurd (List.cons.inj same).1 (ne_of_number start (by decide))
  · next same => exact absurd (List.cons.inj same).1 (ne_of_number start (by decide))
  · next same => exact absurd (List.cons.inj same).1 (ne_of_number start (by decide))
  · next same =>
    cases same
    exact if_pos start

/-- Scalars are read the same with any nesting. -/
theorem value_eq_scalar {c : Char} (bracket : c ≠ '[') (brace : c ≠ '\x7b') (text : List Char)
    (limit nesting : Nat) : value limit nesting (c :: text) = scalar (c :: text) := by
  cases nesting with
  | zero =>
    unfold value
    split
    · next same => exact absurd (List.cons.inj same).1 bracket
    · next same => exact absurd (List.cons.inj same).1 brace
    · rfl
  | succ nesting =>
    unfold value
    split
    · next same => exact absurd (List.cons.inj same).1 bracket
    · next same => exact absurd (List.cons.inj same).1 brace
    · rfl

theorem integer_readsBack {n : Int} (fits : Fits n) (limit nesting : Nat) :
    ReadsBack (value limit nesting) (.number (.integer n)) := by
  intro rest ends
  have read := number_toString fits ends
  obtain ⟨c, text, written, start⟩ := exists_toString_eq_cons n
  have printed : (Json.number (.integer n)).print = c :: text := written
  rw [written] at read
  rw [printed, List.cons_append, value_eq_scalar (ne_of_number start (by decide))
    (ne_of_number start (by decide)), scalar_number start, ← List.cons_append, read]
  rfl

theorem string_readsBack (s : String) (limit nesting : Nat) :
    ReadsBack (value limit nesting) (.string s) := by
  intro rest ends
  obtain ⟨text, written, read⟩ := string_printString s rest
  have printed : (Json.string s).print = printString s := rfl
  rw [printed, written, value_eq_scalar (by decide) (by decide)]
  have step : scalar ('"' :: text) = (string text).map fun found => (.string found.1, found.2) :=
    rfl
  rw [step, read]
  rfl

/-! ## Arrays and objects -/

section

variable {reader : Reader Json} {nesting : Nat}

theorem items_printItems {documents : List Json} (filled : documents ≠ [])
    (legible : ∀ document ∈ documents, document.Legible nesting)
    (reads : ∀ document ∈ documents, ReadsBack reader document) {fuel : Nat}
    (enough : documents.length ≤ fuel) (rest : List Char) :
    items reader fuel (printItems documents ++ ']' :: rest) = .ok (documents, rest) := by
  induction documents generalizing fuel with
  | nil => exact absurd rfl filled
  | cons first documents ih =>
    obtain ⟨here, others⟩ := List.forall_mem_cons.1 legible
    obtain ⟨reads_here, reads_others⟩ := List.forall_mem_cons.1 reads
    obtain ⟨fuel, rfl⟩ : ∃ more, fuel = more + 1 :=
      ⟨fuel - 1, by rw [List.length_cons] at enough; omega⟩
    cases documents with
    | nil =>
      rw [printItems, items, skipGap_print here, reads_here _ (ends_cons rest (by simp))]
      rfl
    | cons next documents =>
      have later := ih (List.cons_ne_nil _ _) others reads_others (Nat.le_of_succ_le_succ enough)
      rw [printItems, items, List.append_assoc, List.cons_append, skipGap_print here,
        reads_here _ (ends_cons _ (by simp))]
      change (items reader fuel (printItems (next :: documents) ++ ']' :: rest) >>= fun found =>
        Except.ok (first :: found.1, found.2)) = _
      rw [later]
      rfl

theorem entry_printString {document : Json} (legible : document.Legible nesting)
    (reads : ReadsBack reader document) (key : String) {rest : List Char} (ends : Ends rest) :
    entry reader (printString key ++ ':' :: (document.print ++ rest)) =
      .ok ((key, document), rest) := by
  obtain ⟨text, written, read⟩ := string_printString key (':' :: (document.print ++ rest))
  rw [written]
  change (string text >>= fun found => _) = _
  rw [read]
  change (reader (skipGap (document.print ++ rest)) >>= fun found =>
    Except.ok ((key, found.1), found.2)) = _
  rw [skipGap_print legible, reads rest ends]
  rfl

theorem entries_printEntries {fields : List (String × Json)} (filled : fields ≠ [])
    (legible : ∀ field ∈ fields, field.2.Legible nesting)
    (reads : ∀ field ∈ fields, ReadsBack reader field.2) {fuel : Nat}
    (enough : fields.length ≤ fuel) (rest : List Char) :
    entries reader fuel (printEntries fields ++ '\x7d' :: rest) = .ok (fields, rest) := by
  induction fields generalizing fuel with
  | nil => exact absurd rfl filled
  | cons first fields ih =>
    obtain ⟨key, document⟩ := first
    obtain ⟨here, others⟩ := List.forall_mem_cons.1 legible
    obtain ⟨reads_here, reads_others⟩ := List.forall_mem_cons.1 reads
    obtain ⟨fuel, rfl⟩ : ∃ more, fuel = more + 1 :=
      ⟨fuel - 1, by rw [List.length_cons] at enough; omega⟩
    cases fields with
    | nil =>
      have read := entry_printString here reads_here key (ends_cons rest (.inr (.inr rfl)))
      rw [printEntries, entries, List.append_assoc, List.cons_append, skipGap_printString, read]
      rfl
    | cons next fields =>
      have later := ih (List.cons_ne_nil _ _) others reads_others (Nat.le_of_succ_le_succ enough)
      have read := entry_printString here reads_here key
        (ends_cons (printEntries (next :: fields) ++ '\x7d' :: rest) (.inl rfl))
      rw [printEntries, entries, List.append_assoc, List.cons_append, List.append_assoc,
        List.cons_append, skipGap_printString, read]
      change (entries reader fuel (printEntries (next :: fields) ++ '\x7d' :: rest) >>= fun found =>
        Except.ok ((key, document) :: found.1, found.2)) = _
      rw [later]
      rfl

end

theorem value_array {limit nesting : Nat} {text : List Char} (filled : ∀ rest, text ≠ ']' :: rest)
    (visible : skipGap text = text) :
    value limit (nesting + 1) ('[' :: text) =
      (items (value limit nesting) limit text).map fun (read, rest) => (.array read, rest) := by
  unfold value
  split
  · next same =>
    cases same
    rw [visible]
    split
    · exact absurd rfl (filled _)
    · rfl
  · next same => cases same
  · next other _ => exact absurd rfl (other text)

theorem value_object {limit nesting : Nat} {text : List Char}
    (filled : ∀ rest, text ≠ '\x7d' :: rest) (visible : skipGap text = text) :
    value limit (nesting + 1) ('\x7b' :: text) =
      (entries (value limit nesting) limit text).map fun (read, rest) => (.object read, rest) := by
  unfold value
  split
  · next same => cases same
  · next same =>
    cases same
    rw [visible]
    split
    · exact absurd rfl (filled _)
    · rfl
  · next other => exact absurd rfl (other text)

theorem array_readsBack {limit nesting : Nat} {documents : List Json}
    (legible : ∀ document ∈ documents, document.Legible nesting)
    (reads : ∀ document ∈ documents, ReadsBack (value limit nesting) document)
    (enough : documents.length ≤ limit) :
    ReadsBack (value limit (nesting + 1)) (.array documents) := by
  intro rest ends
  have written : (Json.array documents).print ++ rest =
      '[' :: (printItems documents ++ ']' :: rest) := by
    simp [print]
  rw [written]
  cases documents with
  | nil => rfl
  | cons first documents =>
    have read := items_printItems (List.cons_ne_nil _ _) legible reads enough rest
    obtain ⟨c, text, begins, starts⟩ :=
      exists_printItems_eq_cons documents (legible first List.mem_cons_self) (']' :: rest)
    rw [begins] at read ⊢
    rw [value_array _ (skipGap_cons text starts.visible), read]
    · rfl
    · rintro more ⟨⟩
      exact starts.opening rfl

theorem object_readsBack {limit nesting : Nat} {fields : List (String × Json)}
    (legible : ∀ field ∈ fields, field.2.Legible nesting)
    (reads : ∀ field ∈ fields, ReadsBack (value limit nesting) field.2)
    (enough : fields.length ≤ limit) :
    ReadsBack (value limit (nesting + 1)) (.object fields) := by
  intro rest ends
  have written : (Json.object fields).print ++ rest =
      '\x7b' :: (printEntries fields ++ '\x7d' :: rest) := by
    simp [print]
  rw [written]
  cases fields with
  | nil => rfl
  | cons first fields =>
    have read := entries_printEntries (List.cons_ne_nil _ _) legible reads enough rest
    obtain ⟨text, begins⟩ := exists_printEntries_eq_cons first fields ('\x7d' :: rest)
    rw [begins] at read ⊢
    rw [value_object _ (skipGap_cons text rfl), read]
    · rfl
    · rintro more ⟨⟩

/-- **A document is read back** whatever follows it, if the reader may go as deep as the document.
The limit of children is no obstacle, because an array has no more of them than its text has
characters. -/
theorem value_readsBack {limit nesting : Nat} {document : Json} (legible : document.Legible nesting)
    (enough : document.print.length ≤ limit) : ReadsBack (value limit nesting) document := by
  induction nesting using Nat.strongRecOn generalizing document with
  | ind nesting ih =>
    cases document with
    | null => cases nesting <;> exact fun rest ends => rfl
    | bool b => cases b <;> cases nesting <;> exact fun rest ends => rfl
    | string s => exact string_readsBack s limit nesting
    | number n =>
      obtain ⟨n, rfl, fits⟩ := exists_integer_of_legible legible
      exact integer_readsBack fits limit nesting
    | array documents =>
      cases nesting with
      | zero => exact legible.elim
      | succ nesting =>
        have room : (printItems documents).length + 2 ≤ limit := by
          rw [print, List.length_cons, List.length_append] at enough
          exact enough
        have children := length_le_printItems documents
        refine array_readsBack legible (fun document member => ?_) (by omega)
        have shorter := length_print_le_printItems member
        exact ih nesting (Nat.lt_succ_self _) (legible document member) (by omega)
    | object fields =>
      cases nesting with
      | zero => exact legible.elim
      | succ nesting =>
        have room : (printEntries fields).length + 2 ≤ limit := by
          rw [print, List.length_cons, List.length_append] at enough
          exact enough
        have children := length_le_printEntries fields
        refine object_readsBack legible (fun field member => ?_) (by omega)
        have shorter := length_print_le_printEntries member
        exact ih nesting (Nat.lt_succ_self _) (legible field member) (by omega)

end Reader

/-- **What is written is read back**: the compact form of a document is a text of this document. -/
theorem readRaw_compact {document : Json} (legible : document.Legible maxNesting) :
    readRaw document.compact = .ok document := by
  have start : skipGap document.print = document.print := by
    have whole := skipGap_print legible []
    rw [List.append_nil] at whole
    exact whole
  have read := Reader.value_readsBack legible (Nat.le_refl _) [] ends_nil
  rw [List.append_nil] at read
  unfold readRaw compact
  rw [String.toList_ofList, start]
  dsimp only
  rw [read]
  rfl

end CloudTemplate.Json

import Mathlib.Data.List.Induction
import Mathlib.Data.Nat.Digits.Defs
import CloudTemplate.Proofs.Arithmetic.Cursor
import CloudTemplate.Proofs.Pieces

/-!
# Selection by a text

A text selects an item by the integer that it starts with after blanks: a sign or none, and all
digits up to the first character that is none (`LeadsWith`). Whatever follows does not matter. A
text is read as this integer if it has 64 bits (`leadingInteger?_eq_some_iff`). Otherwise the text
is no index, like a text without digits.

The integer can be cut out of the text between two bytes, and the item can be taken out of the list
by moving the last item to its place (`selectCutting?`). Such a selection gets stuck when it cuts
the text inside a character, and when there is no item at the place. Neither happens: the first cut
is behind the sign, the second one in front of the first character that is no digit, and the place
is compared with the length before. So this is the same selection (`selectCutting?_eq`).
-/

set_option autoImplicit false

namespace CloudTemplate

namespace Text

/-- The byte at which the first character with a property starts, if there is one. -/
def place? (p : Char → Bool) : List Char → Option Nat
  | [] => none
  | c :: text => if p c then some 0 else (place? p text).map (c.utf8Size + ·)

theorem utf8Size_cons (c : Char) (text : List Char) :
    utf8Size (c :: text) = c.utf8Size + utf8Size text := by
  rw [utf8Size_eq, utf8Size_eq, String.utf8Len_cons, Nat.add_comm]

theorem utf8Size_eq_zero_iff {text : List Char} : utf8Size text = 0 ↔ text = [] := by
  cases text with
  | nil => exact iff_of_true rfl rfl
  | cons c text =>
    have positive := c.utf8Size_pos
    rw [utf8Size_cons]
    exact iff_of_false (by omega) (List.cons_ne_nil c text)

/-- In front of this byte, or of the end, are the characters without the property. -/
theorem getD_place? (p : Char → Bool) (text : List Char) :
    (place? p text).getD (utf8Size text) = utf8Size (text.takeWhile fun c => !p c) := by
  induction text with
  | nil => rfl
  | cons c text ih =>
    rw [place?]
    by_cases here : p c = true
    · rw [if_pos here, List.takeWhile_cons_of_neg (by simp [here])]
      rfl
    · rw [if_neg here, List.takeWhile_cons_of_pos (by simp [here]), utf8Size_cons, utf8Size_cons,
        Option.getD_map (c.utf8Size + ·), ih]

end Text

namespace Collection

/-! ## Integers at the start of texts -/

/-- A sign as it is written, or none, and whether it stands for a negative number. -/
inductive IsSign : List Char → Bool → Prop
  | none : IsSign [] false
  | plus : IsSign ['+'] false
  | minus : IsSign ['-'] true

/-- The number that digits stand for: each counts ten times as much as the one after it. -/
def decimal (digits : List Char) : Nat :=
  Nat.ofDigits 10 (digits.reverse.map fun c => c.toNat - '0'.toNat)

/-- The number with its sign. -/
def signedValue (negative : Bool) (digits : List Char) : Int :=
  if negative then -(decimal digits : Int) else decimal digits

/-- The text starts with an integer: a sign or none, all digits that follow, at least one of them,
and anything that does not go on with a digit. -/
inductive LeadsWith : List Char → Int → Prop
  | integer {sign digits rest : List Char} {negative : Bool} (signed : IsSign sign negative)
      (nonempty : digits ≠ []) (each : ∀ c ∈ digits, Decimal.isDigit c = true)
      (ends : ∀ c ∈ rest.head?, Decimal.isDigit c = false) :
      LeadsWith (sign ++ (digits ++ rest)) (signedValue negative digits)

theorem natOfDigits_eq (digits : List Char) : Decimal.natOfDigits digits = decimal digits := by
  induction digits using List.reverseRecOn with
  | nil => rfl
  | append_singleton digits c ih =>
    have step : Decimal.natOfDigits (digits ++ [c]) =
        10 * Decimal.natOfDigits digits + (c.toNat - '0'.toNat) := List.foldl_append
    rw [step, ih, decimal, decimal, List.reverse_append, List.reverse_singleton,
      List.singleton_append, List.map_cons, Nat.ofDigits_cons, Nat.add_comm]

/-- The integer with 64 bits, if it is one. -/
def bounded? (n : Int) : Option Int64 :=
  if Int64.minValue.toInt ≤ n ∧ n ≤ Int64.maxValue.toInt then some (Int64.ofInt n) else none

theorem bounded?_eq_some_iff {n : Int} {index : Int64} :
    bounded? n = some index ↔ index.toInt = n := by
  have least : Int64.minValue.toInt = -2 ^ 63 := rfl
  have greatest : Int64.maxValue.toInt = 2 ^ 63 - 1 := rfl
  unfold bounded?
  constructor
  · intro found
    split at found
    · next fits =>
      cases found
      exact Int64.toInt_ofInt_of_le (by omega) (by omega)
    · cases found
  · rintro rfl
    have low := index.le_toInt
    have high := index.toInt_lt
    rw [if_pos ⟨by omega, by omega⟩, Int64.ofInt_toInt]

/-- A digit is no sign. -/
theorem ne_sign_of_isDigit {c : Char} (digit : Decimal.isDigit c = true) : c ≠ '+' ∧ c ≠ '-' := by
  constructor
  · rintro rfl
    exact Bool.false_ne_true digit
  · rintro rfl
    exact Bool.false_ne_true digit

/-- The sign in front of digits is found. -/
theorem IsSign.signed_append {sign text : List Char} {negative : Bool}
    (written : IsSign sign negative) (digits : ∃ c ∈ text.head?, Decimal.isDigit c = true) :
    signed (sign ++ text) = (negative, text) := by
  cases written with
  | plus | minus => rfl
  | none =>
    obtain ⟨c, first, digit⟩ := digits
    obtain ⟨rest, rfl⟩ := List.head?_eq_some_iff.1 first
    obtain ⟨not_plus, not_minus⟩ := ne_sign_of_isDigit digit
    rw [List.nil_append]
    unfold signed
    split
    · next same => exact absurd (List.cons.inj same).1 not_minus
    · next same => exact absurd (List.cons.inj same).1 not_plus
    · rfl

/-- The size of the sign at the start of a text. -/
def signSize (text : List Char) : Nat :=
  if text.head? = some '+' ∨ text.head? = some '-' then 1 else 0

/-- A text is its sign and what follows. -/
theorem exists_isSign (text : List Char) :
    ∃ sign, IsSign sign (signed text).1 ∧ text = sign ++ (signed text).2 ∧
      signSize text = Text.utf8Size sign := by
  unfold signed
  split
  · exact ⟨['-'], .minus, rfl, rfl⟩
  · exact ⟨['+'], .plus, rfl, rfl⟩
  · next not_minus not_plus =>
    refine ⟨[], .none, rfl, if_neg ?_⟩
    rintro (first | first)
    · exact not_plus _ (List.head?_eq_some_iff.1 first).choose_spec
    · exact not_minus _ (List.head?_eq_some_iff.1 first).choose_spec

/-- All digits at the start of a text, and the sign in front of them. -/
theorem leadsWith_iff {text : List Char} {n : Int} :
    LeadsWith text n ↔ (signed text).2.takeWhile Decimal.isDigit ≠ [] ∧
      n = signedValue (signed text).1 ((signed text).2.takeWhile Decimal.isDigit) := by
  constructor
  · rintro @⟨sign, digits, rest, negative, written, nonempty, each, ends⟩
    have first : ∃ c ∈ (digits ++ rest).head?, Decimal.isDigit c = true := by
      obtain ⟨c, others, rfl⟩ := List.exists_cons_of_ne_nil nonempty
      exact ⟨c, rfl, each c List.mem_cons_self⟩
    rw [written.signed_append first, Text.takeWhile_append_of_stops each ends]
    exact ⟨nonempty, rfl⟩
  · rintro ⟨nonempty, rfl⟩
    obtain ⟨sign, written, split, -⟩ := exists_isSign text
    have each : ∀ c ∈ (signed text).2.takeWhile Decimal.isDigit, Decimal.isDigit c = true :=
      List.all_eq_true.1 List.all_takeWhile
    have leads := LeadsWith.integer written nonempty each
      (Text.head_dropWhile Decimal.isDigit (signed text).2)
    rwa [List.takeWhile_append_dropWhile, ← split] at leads

/-- What is read is the number of the digits, with the sign in front of them. -/
theorem leadingInteger?_eq (text : List Char) :
    leadingInteger? text =
      if (signed (Text.trimStart text)).2.takeWhile Decimal.isDigit = [] then none
      else bounded? (signedValue (signed (Text.trimStart text)).1
        ((signed (Text.trimStart text)).2.takeWhile Decimal.isDigit)) := by
  unfold signedValue
  rw [← natOfDigits_eq]
  rfl

/-- **An integer is read from a text exactly when the text starts with it** after blanks. -/
theorem leadingInteger?_eq_some_iff {text : List Char} {index : Int64} :
    leadingInteger? text = some index ↔ LeadsWith (Text.trimStart text) index.toInt := by
  rw [leadingInteger?_eq, leadsWith_iff]
  split
  · next none => exact iff_of_false nofun fun both => both.1 none
  · next nonempty => exact bounded?_eq_some_iff.trans (iff_and_self.2 fun _ => nonempty)

/-! ## Cutting and taking out -/

/-- The integer with 64 bits that the whole text is: a sign or none, and digits. -/
def integer64? (literal : List Char) : Option Int64 :=
  let (negative, digits) := signed literal
  if digits ≠ [] ∧ digits.all Decimal.isDigit then bounded? (signedValue negative digits) else none

/-- The integer at the start of a text after blanks, cut out of the text between two bytes. There
is no answer when a cut is inside a character or behind the text, or a size is negative. -/
def cutInteger? (text : List Char) : Option (Option Int64) := do
  let trimmed := Text.trimStart text
  let sign := signSize trimmed
  let unsigned ← Text.from? trimmed sign
  guard (sign ≤ Text.utf8Size trimmed)
  let size := (Text.place? (!Decimal.isDigit ·) unsigned).getD (Text.utf8Size trimmed - sign)
  if size = 0 then return none
  let literal ← Text.upTo? trimmed (sign + size)
  return integer64? literal

/-- Takes the item at a place out of a list, and moves the last one to its place. There is no answer
when the list has no such place. -/
def swapRemove? (items : List Value) (place : Nat) : Option (Value × List Value) := do
  let item ← items[place]?
  let last ← items.getLast?
  return (item, (items.set place last).dropLast)

/-- Selects from a list by a text with cuts and by taking out, if there is no answer missing. -/
def selectCutting? (call : Invocation) (text : String) (items : List Value) :
    Option (Except Error Value) := do
  match ← cutInteger? text.toList with
  | none => return .error (.invalidArguments call.key (.invalidIndex text))
  | some index =>
    if 0 ≤ index.toInt ∧ index.toInt.toNat < items.length then
      let (item, _) ← swapRemove? items index.toInt.toNat
      return .ok item
    else return .error (.indexOutOfBounds call.key index items.length)

theorem integer64?_append {sign digits : List Char} {negative : Bool}
    (written : IsSign sign negative) (nonempty : digits ≠ [])
    (each : ∀ c ∈ digits, Decimal.isDigit c = true) :
    integer64? (sign ++ digits) = bounded? (signedValue negative digits) := by
  obtain ⟨c, others, rfl⟩ := List.exists_cons_of_ne_nil nonempty
  unfold integer64?
  rw [written.signed_append ⟨c, rfl, each c List.mem_cons_self⟩]
  exact if_pos ⟨nonempty, List.all_eq_true.2 each⟩

/-- **Both cuts are between characters**, and what is cut out is the integer that is read. -/
theorem cutInteger?_eq (text : List Char) : cutInteger? text = some (leadingInteger? text) := by
  rw [leadingInteger?_eq]
  unfold cutInteger?
  dsimp only
  generalize Text.trimStart text = trimmed
  obtain ⟨sign, written, split, size⟩ := exists_isSign trimmed
  generalize (signed trimmed).1 = negative at written ⊢
  generalize (signed trimmed).2 = unsigned at split ⊢
  subst split
  have between : Text.from? (sign ++ unsigned) (Text.utf8Size sign) = some unsigned :=
    Text.from?_append sign unsigned
  have total : Text.utf8Size (sign ++ unsigned) - Text.utf8Size sign = Text.utf8Size unsigned := by
    rw [Text.utf8Size_append, Nat.add_sub_cancel_left]
  have digits : (Text.place? (!Decimal.isDigit ·) unsigned).getD (Text.utf8Size unsigned) =
      Text.utf8Size (unsigned.takeWhile Decimal.isDigit) := by
    rw [Text.getD_place?]
    simp only [Bool.not_not]
  have each : ∀ c ∈ unsigned.takeWhile Decimal.isDigit, Decimal.isDigit c = true :=
    List.all_eq_true.1 List.all_takeWhile
  have literal : Text.upTo? (sign ++ unsigned)
      (Text.utf8Size sign + Text.utf8Size (unsigned.takeWhile Decimal.isDigit)) =
        some (sign ++ unsigned.takeWhile Decimal.isDigit) := by
    have cut := Text.upTo?_append (sign ++ unsigned.takeWhile Decimal.isDigit)
      (unsigned.dropWhile Decimal.isDigit)
    rwa [List.append_assoc, List.takeWhile_append_dropWhile, Text.utf8Size_append] at cut
  have inside : Text.utf8Size sign ≤ Text.utf8Size (sign ++ unsigned) := by
    rw [Text.utf8Size_append]
    exact Nat.le_add_right _ _
  rw [size, between, total]
  simp only [Option.bind_eq_bind, Option.bind_some, guard, if_pos inside, Option.pure_def, digits,
    literal, Text.utf8Size_eq_zero_iff]
  split
  · rfl
  · next nonempty => rw [integer64?_append written nonempty each]

theorem itemAt?_of_inside {items : List Value} {index : Int64}
    (inside : 0 ≤ index.toInt ∧ index.toInt.toNat < items.length) :
    itemAt? items index = some (items.get ⟨index.toInt.toNat, inside.2⟩) := by
  have natural : ¬index < 0 := mt Int64.lt_iff_toInt_lt.1 (Int.not_lt.2 inside.1)
  rw [itemAt?, if_neg natural]
  exact List.getElem?_eq_getElem inside.2

theorem itemAt?_of_outside {items : List Value} {index : Int64}
    (outside : ¬(0 ≤ index.toInt ∧ index.toInt.toNat < items.length)) :
    itemAt? items index = none := by
  unfold itemAt?
  split
  · rfl
  · next natural =>
    have from_start : 0 ≤ index.toInt :=
      Int.not_lt.1 fun negative => natural (Int64.lt_iff_toInt_lt.2 negative)
    exact List.getElem?_eq_none (Nat.not_lt.1 fun inside => outside ⟨from_start, inside⟩)

theorem swapRemove?_eq {items : List Value} {place : Nat} (inside : place < items.length) :
    ∃ rest, swapRemove? items place = some (items.get ⟨place, inside⟩, rest) := by
  have nonempty : items ≠ [] := List.ne_nil_of_length_pos (Nat.zero_lt_of_lt inside)
  refine ⟨(items.set place (items.getLast nonempty)).dropLast, ?_⟩
  unfold swapRemove?
  rw [List.getElem?_eq_getElem inside, List.getLast?_eq_some_getLast nonempty]
  rfl

/-- What a text selects from a list. -/
def selected (function text : String) (items : List Value) : Except Error Value :=
  match leadingInteger? text.toList with
  | none => .error (.invalidArguments function (.invalidIndex text))
  | some index =>
    match itemAt? items index with
    | some item => .ok item
    | none => .error (.indexOutOfBounds function index items.length)

theorem selected_of_leadsWith {function text : String} {items : List Value} {index : Int64}
    (leads : LeadsWith (Text.trimStart text.toList) index.toInt) :
    selected function text items =
      if inside : 0 ≤ index.toInt ∧ index.toInt.toNat < items.length then
        .ok (items.get ⟨index.toInt.toNat, inside.2⟩)
      else .error (.indexOutOfBounds function index items.length) := by
  unfold selected
  rw [leadingInteger?_eq_some_iff.2 leads]
  dsimp only
  by_cases inside : 0 ≤ index.toInt ∧ index.toInt.toNat < items.length
  · rw [itemAt?_of_inside inside, dif_pos inside]
  · rw [itemAt?_of_outside inside, dif_neg inside]

theorem selected_of_not_leadsWith {function text : String} {items : List Value}
    (never : ∀ index : Int64, ¬LeadsWith (Text.trimStart text.toList) index.toInt) :
    selected function text items = .error (.invalidArguments function (.invalidIndex text)) := by
  have none : leadingInteger? text.toList = none :=
    Option.eq_none_iff_forall_ne_some.2 fun index found =>
      never index (leadingInteger?_eq_some_iff.1 found)
  unfold selected
  rw [none]

/-- **There always is an answer**, and it is what the text selects. -/
theorem selectCutting?_eq (call : Invocation) (text : String) (items : List Value) :
    selectCutting? call text items = some (selected call.key text items) := by
  unfold selectCutting? selected
  rw [cutInteger?_eq]
  cases leadingInteger? text.toList with
  | none => rfl
  | some index =>
    simp only [Option.bind_eq_bind, Option.bind_some]
    by_cases inside : 0 ≤ index.toInt ∧ index.toInt.toNat < items.length
    · obtain ⟨rest, removed⟩ := swapRemove?_eq inside.2
      rw [itemAt?_of_inside inside, if_pos inside, removed]
      rfl
    · rw [itemAt?_of_outside inside, if_neg inside]
      rfl

/-! ## Selection -/

section Selection

open Strings (Receives twoArguments_eq)

variable {call : Invocation} {answer : Value → Except Error Value} {text : String}
  {items : List Value}

theorem outcome_select (receives : Receives call answer (.string text) (.list items)) :
    (select call).outcome answer = selected call.key text items := by
  obtain ⟨one, other, written, resolved, resolved'⟩ := receives
  unfold select
  rw [twoArguments_eq written]
  refine (call.outcome_known resolved rfl _).trans ?_
  unfold toIndex selected
  dsimp only
  cases leadingInteger? text.toList with
  | none => rfl
  | some index =>
    refine (call.outcome_known resolved' rfl _).trans ?_
    dsimp only
    change (match itemAt? items index with
      | some item => pure item
      | none => .fail (.indexOutOfBounds call.key index items.length) :
        Program Value).outcome answer = _
    cases itemAt? items index with
    | some item => rfl
    | none => rfl

/-- **Selection by a text is exact.** If the text starts with an integer of 64 bits after blanks,
this is the index: the item at it is selected if the list has one there, and otherwise the error
tells the index and the length of the list. A text that does not start in this way is refused. With
cuts between bytes, and by taking the item out, there is the same answer and never none. -/
theorem select_exact (receives : Receives call answer (.string text) (.list items)) :
    (∀ index : Int64, LeadsWith (Text.trimStart text.toList) index.toInt →
      (select call).outcome answer =
        if inside : 0 ≤ index.toInt ∧ index.toInt.toNat < items.length then
          .ok (items.get ⟨index.toInt.toNat, inside.2⟩)
        else .error (.indexOutOfBounds call.key index items.length)) ∧
    ((∀ index : Int64, ¬LeadsWith (Text.trimStart text.toList) index.toInt) →
      (select call).outcome answer = .error (.invalidArguments call.key (.invalidIndex text))) ∧
    selectCutting? call text items = some ((select call).outcome answer) := by
  rw [outcome_select receives]
  exact ⟨fun _ => selected_of_leadsWith, selected_of_not_leadsWith,
    selectCutting?_eq call text items⟩

/-- Selects from two items by a text. -/
def selectFromTwo (text : String) : Invocation :=
  ⟨"Fn::Select", "Select", .list [.string text, .list [.string "a", .string "é"]],
    ⟨Config.standard, [], .null⟩⟩

/-- A text that starts with an ideographic space, and goes on with a letter of two bytes, selects
the second item. The least integer is outside of the list, the one below it is no index, and neither
is a digit of another script. -/
theorem select_exact_letters :
    let answer := Resolver.outcome Registry.standard ⟨Config.standard, [], .null⟩ 2
    (select (selectFromTwo "\u3000+001é")).outcome answer = .ok (.string "é") ∧
      (select (selectFromTwo "-9223372036854775808")).outcome answer =
        .error (.indexOutOfBounds "Fn::Select" Int64.minValue 2) ∧
      (select (selectFromTwo "-9223372036854775809")).outcome answer =
        .error (.invalidArguments "Fn::Select" (.invalidIndex "-9223372036854775809")) ∧
      (select (selectFromTwo "\u0661")).outcome answer =
        .error (.invalidArguments "Fn::Select" (.invalidIndex "\u0661")) := by
  intro answer
  have receives : ∀ text : String, Receives (selectFromTwo text) answer (.string text)
      (.list [.string "a", .string "é"]) :=
    fun text => ⟨_, _, rfl, rfl, rfl⟩
  have refused : ∀ text : String, leadingInteger? text.toList = none →
      ∀ index : Int64, ¬LeadsWith (Text.trimStart text.toList) index.toInt := by
    intro text none index leads
    rw [← leadingInteger?_eq_some_iff, none] at leads
    cases leads
  refine ⟨(select_exact (receives _)).1 1 ?_, (select_exact (receives _)).1 Int64.minValue ?_,
    (select_exact (receives _)).2.1 (refused _ rfl),
    (select_exact (receives _)).2.1 (refused _ rfl)⟩
  · exact leadingInteger?_eq_some_iff.1 rfl
  · exact leadingInteger?_eq_some_iff.1 rfl

end Selection

end Collection

end CloudTemplate

import CloudTemplate.Json.Reader
import CloudTemplate.Json.Writer
import CloudTemplate.Text.Affix

/-!
# Strings and integers are read back

The tokens of a document are read back whatever follows them in the text. A character of a string
stands for itself, or it is escaped by a letter or by its code (`escape_cases`), and in each case it
is read back before the rest of the string (`Reader.stringFrom_escape`). The digits of an integer
have no leading zero, so they are read as a number, as long as the text does not go on with
something that belongs to a number (`Ends`, `Reader.number_toString`).
-/

set_option autoImplicit false

namespace CloudTemplate.Json

/-! ## Strings -/

/-- How a character is written in a string: by a letter, by its code, or as it is. -/
theorem escape_cases (c : Char) :
    (∃ letter, escape c = ['\\', letter] ∧ letter ≠ 'u' ∧ Reader.escaped? letter = some c) ∨
      (c.toNat < 0x20 ∧
        escape c = ['\\', 'u', '0', '0', hexDigit (c.toNat / 16), hexDigit (c.toNat % 16)]) ∨
      (escape c = [c] ∧ c ≠ '"' ∧ c ≠ '\\' ∧ 0x20 ≤ c.toNat) := by
  unfold escape
  split
  · next same => exact .inl ⟨'"', rfl, by decide, by rw [same]; rfl⟩
  split
  · next same => exact .inl ⟨'\\', rfl, by decide, by rw [same]; rfl⟩
  split
  · next same => exact .inl ⟨'b', rfl, by decide, by rw [same]; rfl⟩
  split
  · next same => exact .inl ⟨'t', rfl, by decide, by rw [same]; rfl⟩
  split
  · next same => exact .inl ⟨'n', rfl, by decide, by rw [same]; rfl⟩
  split
  · next same => exact .inl ⟨'f', rfl, by decide, by rw [same]; rfl⟩
  split
  · next same => exact .inl ⟨'r', rfl, by decide, by rw [same]; rfl⟩
  split
  · next control => exact .inr (.inl ⟨control, rfl⟩)
  · next quote backslash _ _ _ _ _ visible =>
    exact .inr (.inr ⟨rfl, quote, backslash, Nat.le_of_not_lt visible⟩)

namespace Reader

theorem hexValue?_hexDigit : ∀ n < 16, hexValue? (hexDigit n) = some n := by
  decide

/-- The characters from `c` on, once the characters after it are read. -/
def before (c : Char) (others : Except Fault (List Char × List Char)) :
    Except Fault (List Char × List Char) :=
  others.map fun (read, rest) => (c :: read, rest)

theorem stringFrom_letter {letter c : Char} (other : letter ≠ 'u')
    (meant : escaped? letter = some c) (text : List Char) :
    stringFrom .between ('\\' :: letter :: text) = before c (stringFrom .between text) := by
  have step : stringFrom .between ('\\' :: letter :: text) = stringFrom .escape (letter :: text) :=
    rfl
  rw [step, stringFrom, if_neg other, meant]
  rfl

theorem stringFrom_plain {c : Char} (quote : c ≠ '"') (backslash : c ≠ '\\')
    (visible : 0x20 ≤ c.toNat) (text : List Char) :
    stringFrom .between (c :: text) = before c (stringFrom .between text) := by
  rw [stringFrom, if_neg quote, if_neg backslash, if_neg (Nat.not_lt.2 visible)]
  rfl

/-- A code unit is read digit by digit. -/
theorem stringFrom_digit {n : Nat} (digit : n < 16) (missing value : Nat) (high : Option Nat)
    (text : List Char) :
    stringFrom (.codeUnit (missing + 2) value high) (hexDigit n :: text) =
      stringFrom (.codeUnit (missing + 1) (16 * value + n) high) text := by
  rw [stringFrom, hexValue?_hexDigit n digit]
  exact if_pos (by omega)

theorem stringFrom_control {c : Char} (control : c.toNat < 0x20) (text : List Char) :
    stringFrom .between
        ('\\' :: 'u' :: '0' :: '0' :: hexDigit (c.toNat / 16) :: hexDigit (c.toNat % 16) :: text) =
      before c (stringFrom .between text) := by
  have whole : 16 * (16 * (16 * (16 * 0 + 0) + 0) + c.toNat / 16) + c.toNat % 16 = c.toNat := by
    omega
  have unit : codeUnit c.toNat none = .ok (some c, .between) := by
    rw [codeUnit, if_neg (by omega), if_neg (by omega), Char.ofNat_toNat]
  have step : stringFrom .between
      ('\\' :: 'u' :: '0' :: '0' :: hexDigit (c.toNat / 16) :: hexDigit (c.toNat % 16) :: text) =
      stringFrom (.codeUnit 4 0 none) (hexDigit 0 :: hexDigit 0 :: hexDigit (c.toNat / 16) ::
        hexDigit (c.toNat % 16) :: text) := rfl
  rw [step, stringFrom_digit (by omega), stringFrom_digit (by omega), stringFrom_digit (by omega),
    stringFrom, hexValue?_hexDigit _ (by omega)]
  dsimp only
  rw [if_neg (by omega), whole, unit]
  rfl

/-- Every character is read back. -/
theorem stringFrom_escape (c : Char) (text : List Char) :
    stringFrom .between (escape c ++ text) = before c (stringFrom .between text) := by
  obtain ⟨letter, written, other, meant⟩ | ⟨control, written⟩ |
    ⟨written, quote, backslash, visible⟩ := escape_cases c
  · rw [written]
    exact stringFrom_letter other meant text
  · rw [written]
    exact stringFrom_control control text
  · rw [written]
    exact stringFrom_plain quote backslash visible text

theorem stringFrom_flatMap_escape (read rest : List Char) :
    stringFrom .between (read.flatMap escape ++ '"' :: rest) = .ok (read, rest) := by
  induction read with
  | nil => rfl
  | cons c read ih =>
    rw [List.flatMap_cons, List.append_assoc, stringFrom_escape, ih]
    rfl

/-- **Strings are read back.** -/
theorem string_flatMap_escape (s : String) (rest : List Char) :
    string (s.toList.flatMap escape ++ '"' :: rest) = .ok (s, rest) := by
  rw [string, stringFrom_flatMap_escape]
  exact congrArg (fun read => Except.ok (read, rest)) String.ofList_toList

end Reader

/-! ## Integers -/

/-- The integer has 64 bits, with a sign or without one. -/
def Fits (n : Int) : Prop :=
  -(Nat.pow 2 63 : Nat) ≤ n ∧ n < (Nat.pow 2 64 : Nat)

/-- Nothing in front of the text belongs to a number any more. -/
def Ends (text : List Char) : Prop :=
  ∀ c rest, text = c :: rest → Decimal.isDigit c = false ∧ c ≠ '.' ∧ c ≠ 'e' ∧ c ≠ 'E'

theorem ends_nil : Ends [] := by
  rintro c rest ⟨⟩

theorem ends_cons {c : Char} (rest : List Char) (other : c = ',' ∨ c = ']' ∨ c = '\x7d') :
    Ends (c :: rest) := by
  rintro d rest ⟨⟩
  rcases other with rfl | rfl | rfl <;> decide

namespace Reader

theorem isDigit_of_mem_toDigits {n : Nat} {c : Char} (member : c ∈ Nat.toDigits 10 n) :
    Decimal.isDigit c = true :=
  Nat.isDigit_of_mem_toDigits (by decide) (by decide) member

/-- Only zero starts with a zero. -/
theorem eq_zero_of_toDigits_eq_cons {n : Nat} {digits : List Char}
    (zero : Nat.toDigits 10 n = '0' :: digits) : n = 0 := by
  induction n using Nat.strongRecOn generalizing digits with
  | ind n ih =>
    rw [Nat.toDigits_eq_if (by decide)] at zero
    split at zero
    · exact Nat.digitChar_eq_zero.1 (List.cons.inj zero).1
    · next large =>
      cases first : Nat.toDigits 10 (n / 10) with
      | nil => exact absurd first Nat.toDigits_ne_nil
      | cons c others =>
        rw [first] at zero
        obtain rfl : c = '0' := (List.cons.inj zero).1
        have small := ih (n / 10) (by omega) first
        omega

theorem spanDigits_append {digits rest : List Char}
    (all : ∀ c ∈ digits, Decimal.isDigit c = true) (ends : Ends rest) :
    Decimal.spanDigits (digits ++ rest) = (digits, rest) := by
  have stops : ∀ c ∈ rest.head?, Decimal.isDigit c = false := by
    intro c first
    obtain ⟨others, split⟩ := List.head?_eq_some_iff.1 first
    exact (ends c others split).1
  rw [Decimal.spanDigits, Text.takeWhile_append_of_stops all stops,
    Text.dropWhile_append_of_stops all stops]

theorem fraction_of_ends {rest : List Char} (ends : Ends rest) :
    fraction rest = .ok (none, rest) := by
  unfold fraction
  split
  · exact absurd rfl (ends _ _ rfl).2.1
  · rfl

theorem power_of_ends {rest : List Char} (ends : Ends rest) : power rest = .ok (none, rest) := by
  cases rest with
  | nil => rfl
  | cons c rest =>
    obtain ⟨_, _, lower, upper⟩ := ends c rest rfl
    exact if_neg (not_or_intro lower upper)

/-- Reads a number after its sign. -/
def unsigned (negative : Bool) : Reader Number := fun text => do
  let (whole, text) := Decimal.spanDigits text
  match whole with
  | [] => stuck text
  | '0' :: digit :: _ => .error (.unexpected digit)
  | _ =>
    let (fraction, text) ← fraction text
    let (power, text) ← power text
    let number ← numberOf negative whole fraction power
    .ok (number, text)

theorem number_minus (text : List Char) : number ('-' :: text) = unsigned true text := rfl

theorem number_digit {c : Char} (digit : Decimal.isDigit c = true) (text : List Char) :
    number (c :: text) = unsigned false (c :: text) := by
  unfold number
  split
  next signed =>
    split at signed
    · next minus =>
      cases minus
      cases digit
    · cases signed
      rfl

/-- Digits are read as a number, unless they start with a zero that is not needed. -/
theorem unsigned_append (negative : Bool) {digits rest : List Char} (some_digit : digits ≠ [])
    (all : ∀ c ∈ digits, Decimal.isDigit c = true)
    (least : ∀ digit others, digits ≠ '0' :: digit :: others) (ends : Ends rest) :
    unsigned negative (digits ++ rest) = (numberOf negative digits none none).map (·, rest) := by
  unfold unsigned
  rw [spanDigits_append all ends]
  dsimp only
  split
  · exact absurd rfl some_digit
  · exact absurd rfl (least _ _)
  · rw [fraction_of_ends ends]
    dsimp only [bind, Except.bind]
    rw [power_of_ends ends]
    dsimp only
    cases numberOf negative digits none none <;> rfl

theorem unsigned_toDigits (negative : Bool) (n : Nat) {rest : List Char} (ends : Ends rest) :
    unsigned negative (Nat.toDigits 10 n ++ rest) =
      (numberOf negative (Nat.toDigits 10 n) none none).map (·, rest) := by
  refine unsigned_append negative Nat.toDigits_ne_nil (fun c => isDigit_of_mem_toDigits) ?_ ends
  intro digit others leading
  obtain rfl := eq_zero_of_toDigits_eq_cons leading
  cases leading

theorem number_toDigits (n : Nat) (rest : List Char) :
    number (Nat.toDigits 10 n ++ rest) = unsigned false (Nat.toDigits 10 n ++ rest) := by
  obtain ⟨c, others, digits⟩ := List.exists_cons_of_ne_nil (@Nat.toDigits_ne_nil n 10)
  have digit : Decimal.isDigit c = true := isDigit_of_mem_toDigits (digits ▸ List.mem_cons_self)
  rw [digits]
  exact number_digit digit _

theorem natOfDigits_toDigits (n : Nat) : Decimal.natOfDigits (Nat.toDigits 10 n) = n :=
  Nat.ofDigitChars_ten_toDigits

theorem toList_toString_ofNat (n : Nat) :
    (toString (Int.ofNat n)).toList = Nat.toDigits 10 n := by
  rw [Int.toString_eq_repr, Int.repr, Nat.repr_eq_ofList_toDigits, String.toList_ofList]

theorem toList_toString_negSucc (n : Nat) :
    (toString (Int.negSucc n)).toList = '-' :: Nat.toDigits 10 (n + 1) := by
  rw [Int.toString_eq_repr, Int.repr, Nat.repr_eq_ofList_toDigits, String.toList_append]
  exact congrArg ('-' :: ·) String.toList_ofList

/-- An integer starts with its sign or with a digit. -/
theorem exists_toString_eq_cons (n : Int) :
    ∃ c text, (toString n).toList = c :: text ∧ (c = '-' ∨ Decimal.isDigit c = true) := by
  cases n with
  | ofNat n =>
    obtain ⟨c, text, digits⟩ := List.exists_cons_of_ne_nil (@Nat.toDigits_ne_nil n 10)
    rw [toList_toString_ofNat]
    exact ⟨c, text, digits, .inr (isDigit_of_mem_toDigits (digits ▸ List.mem_cons_self))⟩
  | negSucc n => exact ⟨'-', _, toList_toString_negSucc n, .inl rfl⟩

/-- **Integers are read back.** -/
theorem number_toString {n : Int} (fits : Fits n) {rest : List Char} (ends : Ends rest) :
    number ((toString n).toList ++ rest) = .ok (.integer n, rest) := by
  obtain ⟨least, greatest⟩ := fits
  cases n with
  | ofNat n =>
    have small : n < Nat.pow 2 64 := Int.ofNat_lt.1 greatest
    rw [toList_toString_ofNat, number_toDigits, unsigned_toDigits false n ends, numberOf,
      natOfDigits_toDigits, if_neg Bool.false_ne_true, if_pos small]
    rfl
  | negSucc n =>
    have small : 0 < n + 1 ∧ n + 1 ≤ Nat.pow 2 63 :=
      ⟨Nat.succ_pos n, Int.ofNat_le.1 (Int.neg_le_neg_iff.1 least)⟩
    rw [toList_toString_negSucc, List.cons_append, number_minus,
      unsigned_toDigits true (n + 1) ends, numberOf, natOfDigits_toDigits, if_pos rfl,
      if_pos small]
    rfl

end Reader

end CloudTemplate.Json

import CloudTemplate.Text.Affix

/-!
# Blank characters

The characters that separate words without being written themselves: the Unicode
property White_Space. Texts are trimmed of them before an expression or an index is
read, and expressions and patterns may hold them between their tokens.

The main facts are that trimming at the front removes blanks only
(`takeWhile_append_trimStart`), and that nothing blank is left there
(`head_trimStart`).
-/

set_option autoImplicit false

namespace CloudTemplate.Text

/-- The code points with the property White_Space. -/
def isBlank (c : Char) : Bool :=
  let code := c.toNat
  (0x09 ≤ code && code ≤ 0x0D) || code == 0x20 || code == 0x85 || code == 0xA0 ||
    code == 0x1680 || (0x2000 ≤ code && code ≤ 0x200A) || code == 0x2028 || code == 0x2029 ||
    code == 0x202F || code == 0x205F || code == 0x3000

/-- The text has blanks only. -/
def Blank (text : List Char) : Prop :=
  ∀ c ∈ text, isBlank c = true

/-- The text without its leading blanks. -/
def trimStart (text : List Char) : List Char :=
  text.dropWhile isBlank

/-- The text without its leading and trailing blanks. -/
def trim (text : List Char) : List Char :=
  (trimStart (trimStart text).reverse).reverse

/-- Trimming at the front only cuts off blanks. -/
theorem takeWhile_append_trimStart (text : List Char) :
    text.takeWhile isBlank ++ trimStart text = text :=
  List.takeWhile_append_dropWhile

/-- What is left after trimming at the front does not start with a blank. -/
theorem head_trimStart {text rest : List Char} {c : Char} (h : trimStart text = c :: rest) :
    isBlank c = false :=
  head_dropWhile isBlank text c (List.head?_eq_some_iff.2 ⟨rest, h⟩)

theorem trimStart_cons_of_isBlank {c : Char} (text : List Char) (blank : isBlank c = true) :
    trimStart (c :: text) = trimStart text :=
  List.dropWhile_cons_of_pos blank

/-- A text that does not start with a blank is trimmed at the front. -/
theorem trimStart_cons {c : Char} (text : List Char) (visible : isBlank c = false) :
    trimStart (c :: text) = c :: text :=
  List.dropWhile_cons_of_neg (Bool.eq_false_iff.1 visible)

/-- Blanks in front of a text are cut off. -/
theorem trimStart_append {blanks : List Char} (blank : Blank blanks)
    (text : List Char) : trimStart (blanks ++ text) = trimStart text := by
  induction blanks with
  | nil => rfl
  | cons c blanks ih =>
    rw [List.cons_append, trimStart_cons_of_isBlank _ (blank c List.mem_cons_self)]
    exact ih fun d member => blank d (List.mem_cons_of_mem c member)

@[simp] theorem trimStart_trimStart (text : List Char) :
    trimStart (trimStart text) = trimStart text := by
  cases trimmed : trimStart text with
  | nil => rfl
  | cons c rest => exact trimStart_cons rest (head_trimStart trimmed)

/-- A text is its leading blanks and what trimming leaves. -/
theorem exists_blanks (text : List Char) :
    ∃ blanks, Blank blanks ∧ text = blanks ++ trimStart text :=
  ⟨text.takeWhile isBlank, List.all_eq_true.1 List.all_takeWhile,
    (takeWhile_append_trimStart text).symm⟩

/-- A trimmed text does not end with blanks. -/
theorem eq_nil_of_trim_eq_append {text body blanks : List Char}
    (blank : Blank blanks) (trimmed : trim text = body ++ blanks) :
    blanks = [] := by
  have reversed : trimStart (trimStart text).reverse = blanks.reverse ++ body.reverse := by
    rw [← List.reverse_append, ← trimmed, trim, List.reverse_reverse]
  cases last : blanks.reverse with
  | nil => exact List.reverse_eq_nil_iff.1 last
  | cons c others =>
    rw [last] at reversed
    have visible := head_trimStart reversed
    rw [blank c (List.mem_reverse.1 (last ▸ List.mem_cons_self))] at visible
    cases visible

end CloudTemplate.Text

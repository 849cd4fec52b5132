import Mathlib.Data.List.Basic
import CloudTemplate.Proofs.Arithmetic.Evaluation

/-!
# Where texts go wrong

A fault keeps the text that was still to be read (`Fault.rest`), and what stands before it is no
accident: it can be completed to an expression (`Viable`), since reading breaks down at the first
place from which it cannot go on. That it is the first one is seen from the reader itself. It has
looked at nothing behind an unexpected character, so it meets the same character whatever comes
behind it (`Located.persists`), and a text that is rejected is no expression (`not_viable`).

What is unclosed before a missing parenthesis is a parenthesis around an expression, and the
parentheses in an expression are nested (`Expression.nested`). Digits and points are a number if
there is a digit among them and no second point (`unsigned?_isSome_iff`).
-/

set_option autoImplicit false

namespace CloudTemplate.Arithmetic

/-- The text can be completed to an expression of the level. -/
def Viable (level : Level) (front : List Char) : Prop :=
  ∃ (expression : Expression level) (after : List Char), expression.WrittenAs (front ++ after)

/-- The text that was still to be read. -/
def Fault.rest : Fault (List Char) → List Char
  | .unexpectedCharacter _ place => place
  | .missingParenthesis place => place
  | .invalidNumber _ place => place
  | _ => []

/-! ## Numbers -/

/-- Digits and points are a number. -/
def IsNumber (digits : List Char) : Prop :=
  (∃ c ∈ digits, Decimal.isDigit c = true) ∧ digits.count '.' ≤ 1

theorem eq_point_of_isPart {c : Char} (part : isPart c = true)
    (other : Decimal.isDigit c = false) : c = '.' := by
  unfold isPart at part
  rw [other, Bool.false_or] at part
  exact beq_iff_eq.1 part

/-- Digits and points are digits, and perhaps a point and more digits and points. -/
theorem spanDigits_parts {text : List Char} (parts : ∀ c ∈ text, isPart c = true) :
    (∀ c ∈ (Decimal.spanDigits text).1, Decimal.isDigit c = true) ∧
      text = (Decimal.spanDigits text).1 ++ (Decimal.spanDigits text).2 ∧
      ((Decimal.spanDigits text).2 = [] ∨
        ∃ rest, (Decimal.spanDigits text).2 = '.' :: rest ∧ ∀ c ∈ rest, isPart c = true) := by
  refine ⟨List.all_eq_true.1 List.all_takeWhile, List.takeWhile_append_dropWhile.symm, ?_⟩
  unfold Decimal.spanDigits
  cases after : text.dropWhile Decimal.isDigit with
  | nil => exact .inl rfl
  | cons c rest =>
    have member : ∀ d ∈ c :: rest, d ∈ text := fun d member =>
      (List.dropWhile_suffix Decimal.isDigit).subset (after ▸ member)
    have stopped := Text.head_dropWhile Decimal.isDigit text c (after ▸ rfl)
    obtain rfl := eq_point_of_isPart (parts c (member c List.mem_cons_self)) stopped
    exact .inr ⟨rest, rfl, fun d later => parts d (member d (List.mem_cons_of_mem _ later))⟩

theorem count_point_eq_zero {digits : List Char}
    (all : ∀ c ∈ digits, Decimal.isDigit c = true) : digits.count '.' = 0 :=
  List.count_eq_zero.2 fun member => absurd (all '.' member) (by decide)

theorem exists_digit_iff {digits : List Char} (all : ∀ c ∈ digits, Decimal.isDigit c = true) :
    (∃ c ∈ digits, Decimal.isDigit c = true) ↔ digits ≠ [] :=
  ⟨fun ⟨_, member, _⟩ => List.ne_nil_of_mem member, fun nonempty =>
    have member := List.head_mem nonempty
    ⟨_, member, all _ member⟩⟩

theorem unsigned?_whole {digits whole : List Char}
    (spanned : Decimal.spanDigits digits = (whole, [])) :
    (Decimal.unsigned? digits).isSome = true ↔ whole ≠ [] := by
  unfold Decimal.unsigned?
  rw [spanned]
  by_cases empty : whole = [] <;> simp [empty, Decimal.exponent?]

theorem unsigned?_point {digits whole more fraction left : List Char}
    (spanned : Decimal.spanDigits digits = (whole, '.' :: more))
    (further : Decimal.spanDigits more = (fraction, left)) :
    (Decimal.unsigned? digits).isSome = true ↔
      (whole ≠ [] ∨ fraction ≠ []) ∧ (Decimal.exponent? left).isSome = true := by
  unfold Decimal.unsigned?
  simp only [spanned, further]
  by_cases empty : whole = [] ∧ fraction = []
  · simp [empty]
  · rw [if_neg empty, Option.isSome_map]
    simp [not_and_or.1 empty]

/-- **Digits and points are read as a number** if there is a digit among them and no second
point. -/
theorem unsigned?_isSome_iff {digits : List Char} (parts : ∀ c ∈ digits, isPart c = true) :
    (Decimal.unsigned? digits).isSome = true ↔ IsNumber digits := by
  obtain ⟨all, split, rest⟩ := spanDigits_parts parts
  generalize spanned : Decimal.spanDigits digits = parted at all split rest
  obtain ⟨whole, left⟩ := parted
  dsimp only at all split rest
  have digit := exists_digit_iff all
  have none_here := count_point_eq_zero all
  rcases rest with rfl | ⟨more, rfl, further⟩
  · rw [List.append_nil] at split
    rw [unsigned?_whole spanned, IsNumber, split, digit, none_here]
    simp
  · obtain ⟨also, split', rest⟩ := spanDigits_parts further
    generalize respanned : Decimal.spanDigits more = parted at also split' rest
    obtain ⟨fraction, left⟩ := parted
    dsimp only at also split' rest
    have digit' := exists_digit_iff also
    have none_there := count_point_eq_zero also
    have point : ¬Decimal.isDigit '.' = true := by decide
    rw [unsigned?_point spanned respanned, IsNumber, split, split']
    simp only [List.mem_append, List.mem_cons, or_and_right, exists_or, exists_eq_left, digit,
      digit', point, List.count_append, List.count_cons_self, none_here, none_there]
    rcases rest with rfl | ⟨others, rfl, -⟩
    · simp [Decimal.exponent?]
    · simp [Decimal.exponent?]

/-! ## Parentheses -/

/-- No more parentheses are closed than have been opened, at any place of the text. -/
def Covered (text : List Char) : Prop :=
  ∀ part, part <+: text → part.count ')' ≤ part.count '('

/-- The parentheses in a text belong together. -/
structure Nested (text : List Char) : Prop where
  covered : Covered text
  count_eq : text.count ')' = text.count '('

theorem Covered.append {text more : List Char} (nested : Nested text) (covered : Covered more) :
    Covered (text ++ more) := by
  intro part here
  rcases List.prefix_or_prefix_of_prefix here (List.prefix_append text more) with short | long
  · exact nested.covered part short
  · obtain ⟨further, rfl⟩ := long
    have rest := covered further ((List.prefix_append_right_inj text).1 here)
    rw [List.count_append, List.count_append, nested.count_eq]
    omega

namespace Nested

theorem append {text more : List Char} (nested : Nested text) (also : Nested more) :
    Nested (text ++ more) := by
  refine ⟨.append nested also.covered, ?_⟩
  rw [List.count_append, List.count_append, nested.count_eq, also.count_eq]

/-- A text without parentheses. -/
theorem of_not_mem {text : List Char} (opened : '(' ∉ text) (closed : ')' ∉ text) :
    Nested text := by
  refine ⟨fun part here => ?_, ?_⟩
  · rw [List.count_eq_zero.2 fun member => closed (here.subset member)]
    exact Nat.zero_le _
  · rw [List.count_eq_zero.2 opened, List.count_eq_zero.2 closed]

theorem blank {blanks : List Char} (blank : Text.Blank blanks) : Nested blanks :=
  of_not_mem (fun member => absurd (blank _ member) (by decide))
    fun member => absurd (blank _ member) (by decide)

theorem parts {digits : List Char} (parts : ∀ c ∈ digits, isPart c = true) : Nested digits :=
  of_not_mem (fun member => absurd (parts _ member) (by decide))
    fun member => absurd (parts _ member) (by decide)

/-- A text in parentheses. -/
theorem parenthesized {text : List Char} (nested : Nested text) :
    Nested ('(' :: (text ++ [')'])) := by
  refine ⟨fun part here => ?_, ?_⟩
  · cases part with
    | nil => exact Nat.le_refl 0
    | cons c part =>
      obtain ⟨rfl, inside⟩ := List.cons_prefix_cons.1 here
      rcases List.prefix_concat_iff.1 inside with rfl | inside
      · have same := nested.count_eq
        simp
        omega
      · have covered := nested.covered part inside
        simp
        omega
  · have same := nested.count_eq
    simp
    omega

end Nested

theorem Operator.nested_symbol (operator : Operator) : Nested operator.symbol := by
  cases operator <;> exact .of_not_mem (by decide) (by decide)

/-- **The parentheses in an expression are nested.** -/
theorem Expression.nested : {level : Level} → (expression : Expression level) →
    ∀ {text : List Char}, expression.WrittenAs text → Nested text
  | _, .number literal, _, written => by
    obtain ⟨blanks, rest, rfl, blank, last⟩ := Spaced.exists_cons written
    cases last
    exact (Nested.blank blank).append ((Nested.parts literal.parts).append (.blank nofun))
  | _, .parenthesized inner, _, written => by
    obtain ⟨blanks, rest, rfl, blank, spaced⟩ := Spaced.exists_cons written
    obtain ⟨first, second, rfl, one, other⟩ := spaced.exists_of_append
    obtain ⟨others, nothing, rfl, also, last⟩ := other.exists_cons
    cases last
    have inside := ((inner.nested one).append (.blank also)).parenthesized
    have whole := (Nested.blank blank).append inside
    simpa only [List.append_assoc, List.append_nil, List.cons_append, List.nil_append] using whole
  | _, .unsigned operand, _, written => operand.nested written
  | _, .signed sign operand, _, written => by
    obtain ⟨blanks, rest, rfl, blank, spaced⟩ := Spaced.exists_cons written
    have symbol : Nested [sign.symbol] := by
      cases sign <;> exact .of_not_mem (by decide) (by decide)
    exact (Nested.blank blank).append (symbol.append (operand.nested spaced))
  | _, .plain base, _, written => base.nested written
  | _, .raised base exponent, _, written => by
    obtain ⟨first, second, rfl, one, other⟩ := Spaced.exists_of_append written
    obtain ⟨blanks, rest, rfl, blank, spaced⟩ := other.exists_cons
    exact (base.nested one).append
      ((Nested.blank blank).append (Operator.power.nested_symbol.append (exponent.nested spaced)))
  | _, .single operand, _, written => operand.nested written
  | _, .append left operator _ right, _, written => by
    obtain ⟨first, second, rfl, one, other⟩ := Spaced.exists_of_append written
    obtain ⟨blanks, rest, rfl, blank, spaced⟩ := other.exists_cons
    exact (left.nested one).append
      ((Nested.blank blank).append (operator.nested_symbol.append (right.nested spaced)))

/-- A parenthesis is opened in the text and not closed. -/
def Unclosed (text : List Char) : Prop :=
  ∃ outer inner, text = outer ++ '(' :: inner ∧ Covered inner

theorem Unclosed.append {text : List Char} (unclosed : Unclosed text) (before : List Char) :
    Unclosed (before ++ text) := by
  obtain ⟨outer, inner, rfl, covered⟩ := unclosed
  exact ⟨before ++ outer, inner, (List.append_assoc _ _ _).symm, covered⟩

/-! ## What is behind a character -/

theorem head?_append_cons (front : List Char) (c : Char) (rest other : List Char) :
    (front ++ c :: rest).head? = (front ++ c :: other).head? := by
  cases front <;> rfl

theorem Operator.Apart.congr {operator : Operator} {text more : List Char}
    (apart : operator.Apart text) (same : text.head? = more.head?) : operator.Apart more := by
  unfold Apart
  rw [← same]
  exact apart

/-- Blanks are followed by the same character whatever comes behind it. -/
theorem head?_trimStart_append_cons (front : List Char) {c : Char}
    (visible : Text.isBlank c = false) (rest other : List Char) :
    (Text.trimStart (front ++ c :: rest)).head? = (Text.trimStart (front ++ c :: other)).head? := by
  obtain ⟨blanks, blank, split⟩ := Text.exists_blanks front
  rw [split, List.append_assoc, List.append_assoc, Text.trimStart_append blank,
    Text.trimStart_append blank]
  cases trimmed : Text.trimStart front with
  | nil => rw [List.nil_append, List.nil_append, Text.trimStart_cons _ visible,
      Text.trimStart_cons _ visible]; rfl
  | cons d front =>
    have first := Text.head_trimStart trimmed
    rw [List.cons_append, List.cons_append, Text.trimStart_cons _ first,
      Text.trimStart_cons _ first]
    rfl

theorem Unsigned.congr {text more : List Char} (unsigned : Unsigned text)
    (same : (Text.trimStart text).head? = (Text.trimStart more).head?) : Unsigned more := by
  intro sign rest trimmed
  rw [trimmed] at same
  obtain ⟨others, here⟩ := List.head?_eq_some_iff.1 same
  exact unsigned sign others here

/-! ## Places -/

/-- What a fault says about the text at its place. -/
def Fault.Shown : Fault (List Char) → Prop
  | .unexpectedCharacter c place => Text.isBlank c = false ∧ ∃ rest, place = c :: rest
  | .missingParenthesis place => place.head? ≠ some ')'
  | .invalidNumber literal place =>
    literal = String.ofList (place.takeWhile isPart) ∧ place.takeWhile isPart ≠ [] ∧
      Decimal.unsigned? (place.takeWhile isPart) = none
  | _ => True

theorem Breaks.shown {level : Level} {text : List Char} {fault : Fault (List Char)}
    (breaks : Breaks level text fault) : fault.Shown := by
  induction breaks with
  | ended => trivial
  | character _ visible _ _ rest => exact ⟨visible, rest, rfl⟩
  | number _ first part unread =>
    refine ⟨rfl, ?_, unread⟩
    obtain ⟨rest, rfl⟩ := List.head?_eq_some_iff.1 first
    rw [List.takeWhile_cons_of_pos part]
    exact List.cons_ne_nil _ _
  | unclosed _ _ _ _ missing => exact missing
  | parenthesis _ _ ih | unsigned _ _ ih | signed _ _ _ ih | plain _ ih | single _ ih => exact ih
  | raised _ _ _ _ ih => exact ih
  | append _ _ _ _ _ _ ih => exact ih

/-- The text before the place of a fault. -/
structure Located (level : Level) (front : List Char) (fault : Fault (List Char)) : Prop where
  viable : Viable level front
  unclosed : ∀ place, fault = .missingParenthesis place → Unclosed front
  /-- An unexpected character is one whatever comes behind it. -/
  persists : ∀ c rest, fault = .unexpectedCharacter c (c :: rest) → ∀ other,
    Breaks level (front ++ c :: other) (.unexpectedCharacter c (c :: other))

/-- A fault in a part of an expression is located in the whole. -/
theorem Located.within {inner outer : Level} {front : List Char} {fault : Fault (List Char)}
    (located : Located inner front fault) (before : List Char)
    (completes : ∀ (expression : Expression inner) {text : List Char}, expression.WrittenAs text →
      ∃ (whole : Expression outer) (after : List Char), whole.WrittenAs (before ++ (text ++ after)))
    (persists : ∀ c rest, fault = .unexpectedCharacter c (c :: rest) → ∀ other,
      Breaks inner (front ++ c :: other) (.unexpectedCharacter c (c :: other)) →
      Breaks outer (before ++ (front ++ c :: other)) (.unexpectedCharacter c (c :: other))) :
    Located outer (before ++ front) fault := by
  refine ⟨?_, fun place same => (located.unclosed place same).append before, ?_⟩
  · obtain ⟨expression, after, written⟩ := located.viable
    obtain ⟨whole, more, all⟩ := completes expression written
    refine ⟨whole, after ++ more, ?_⟩
    simpa only [List.append_assoc] using all
  · intro c rest same other
    rw [List.append_assoc]
    exact persists c rest same other (located.persists c rest same other)

/-- A fault in an expression is located in the one that has nothing besides. -/
theorem Located.lift {inner outer : Level} {front : List Char} {fault : Fault (List Char)}
    (located : Located inner front fault) (whole : Expression inner → Expression outer)
    (written : ∀ (expression : Expression inner) {text : List Char}, expression.WrittenAs text →
      (whole expression).WrittenAs text)
    (persists : ∀ c rest, fault = .unexpectedCharacter c (c :: rest) → ∀ other,
      Breaks inner (front ++ c :: other) (.unexpectedCharacter c (c :: other)) →
      Breaks outer (front ++ c :: other) (.unexpectedCharacter c (c :: other))) :
    Located outer front fault :=
  located.within [] (fun expression text here =>
    ⟨whole expression, [], (List.append_nil text).symm ▸ written expression here⟩) persists

/-- What stands before the operand that is missing can be completed with any number. -/
theorem viable_blanks {blanks : List Char} (blank : Text.Blank blanks) :
    Viable .operand blanks :=
  ⟨.number zero, ['0'], .cons blank .nil⟩

theorem Expression.writtenAs_parenthesized {sum : Expression (.chain .sum)} {front : List Char}
    (written : sum.WrittenAs front) {blanks others : List Char} (blank : Text.Blank blanks)
    (also : Text.Blank others) :
    sum.parenthesized.WrittenAs (blanks ++ '(' :: (front ++ (others ++ [')']))) := by
  have closed : Spaced [[')']] (others ++ ([')'] ++ [])) := .cons also .nil
  have whole : sum.parenthesized.WrittenAs (blanks ++ (['('] ++ _)) :=
    .cons blank (Spaced.append written closed)
  simpa only [List.append_nil, List.cons_append, List.nil_append] using whole

theorem Expression.writtenAs_raised {base : Expression .signed} {exponent : Expression .power}
    {front text : List Char} (written : base.WrittenAs front) (further : exponent.WrittenAs text)
    {blanks : List Char} (blank : Text.Blank blanks) :
    (base.raised exponent).WrittenAs (front ++ (blanks ++ (Operator.power.symbol ++ text))) :=
  Spaced.append written (.cons blank further)

theorem Expression.writtenAs_append {kind : Chain} {left : Expression (.chain kind)}
    {operator : Operator} (fits : operator ∈ kind.operators) {right : Expression kind.operand}
    {front text : List Char} (written : left.WrittenAs front) (further : right.WrittenAs text)
    {blanks : List Char} (blank : Text.Blank blanks) :
    (left.append operator fits right).WrittenAs
      (front ++ (blanks ++ (operator.symbol ++ text))) :=
  Spaced.append written (.cons blank further)

theorem Expression.writtenAs_signed {operand : Expression .signed} {text : List Char}
    (written : operand.WrittenAs text) (sign : Sign) {blanks : List Char}
    (blank : Text.Blank blanks) :
    (operand.signed sign).WrittenAs (blanks ++ sign.symbol :: text) :=
  .cons blank written

/-- **A fault is located in the text**: it has a place, and what stands before the place can be
completed. -/
theorem Breaks.located {level : Level} {text : List Char} {fault : Fault (List Char)}
    (breaks : Breaks level text fault) :
    ∃ front, text = front ++ fault.rest ∧ Located level front fault := by
  induction breaks with
  | ended blank => exact ⟨_, (List.append_nil _).symm, viable_blanks blank, nofun, nofun⟩
  | character blank visible parenthesis part rest =>
    refine ⟨_, rfl, viable_blanks blank, nofun, fun c rest same other => ?_⟩
    cases same
    exact .character blank visible parenthesis part other
  | number blank => exact ⟨_, rfl, viable_blanks blank, nofun, nofun⟩
  | @unclosed blanks blank sum front rest written =>
    obtain ⟨others, also, split⟩ := Text.exists_blanks rest
    refine ⟨blanks ++ '(' :: (front ++ others), ?_, ?_, fun place _ => ?_, nofun⟩
    · conv => lhs; rw [split]
      simp only [List.append_assoc, List.cons_append, Fault.rest]
    · refine ⟨sum.parenthesized, [')'], ?_⟩
      simpa only [List.append_assoc, List.cons_append] using
        Expression.writtenAs_parenthesized written blank also
    · exact ⟨blanks, front ++ others, rfl,
        ((sum.nested written).append (.blank also)).covered⟩
  | @parenthesis blanks blank text fault _ ih =>
    obtain ⟨front, rfl, located⟩ := ih
    refine ⟨(blanks ++ ['(']) ++ front, by simp only [List.append_assoc]; rfl,
      located.within (blanks ++ ['(']) (fun sum text written => ?_) fun c rest _ other breaks => ?_⟩
    · refine ⟨sum.parenthesized, [')'], ?_⟩
      simpa only [List.append_assoc, List.cons_append, List.nil_append] using
        Expression.writtenAs_parenthesized written blank (List.forall_mem_nil _)
    · rw [List.append_assoc]
      exact .parenthesis blank breaks
  | @unsigned _ fault unsigned breaks ih =>
    have shown := breaks.shown
    obtain ⟨front, rfl, located⟩ := ih
    refine ⟨front, rfl, located.lift .unsigned (fun _ _ written => written)
      fun c rest same other breaks => .unsigned (unsigned.congr ?_) breaks⟩
    subst same
    exact head?_trimStart_append_cons front shown.1 rest other
  | @signed blanks blank sign _ _ _ ih =>
    obtain ⟨front, rfl, located⟩ := ih
    refine ⟨(blanks ++ [sign.symbol]) ++ front, by simp only [List.append_assoc]; rfl,
      located.within (blanks ++ [sign.symbol]) (fun operand text written => ?_)
        fun c rest _ other breaks => ?_⟩
    · refine ⟨operand.signed sign, [], ?_⟩
      simpa only [List.append_assoc, List.append_nil, List.cons_append, List.nil_append] using
        Expression.writtenAs_signed written sign blank
    · rw [List.append_assoc]
      exact .signed blank sign breaks
  | plain _ ih =>
    obtain ⟨front, rfl, located⟩ := ih
    exact ⟨front, rfl, located.lift .plain (fun _ _ written => written)
      fun _ _ _ _ breaks => .plain breaks⟩
  | @raised base before blanks _ written defined blank _ _ ih =>
    obtain ⟨front, rfl, located⟩ := ih
    refine ⟨(before ++ (blanks ++ Operator.power.symbol)) ++ front,
      by simp only [List.append_assoc],
      located.within (before ++ (blanks ++ Operator.power.symbol))
        (fun exponent text further => ?_) fun c rest _ other breaks => ?_⟩
    · refine ⟨base.raised exponent, [], ?_⟩
      simpa only [List.append_assoc, List.append_nil] using
        Expression.writtenAs_raised written further blank
    · simpa only [List.append_assoc] using Breaks.raised written defined blank breaks
  | single _ ih =>
    obtain ⟨front, rfl, located⟩ := ih
    exact ⟨front, rfl, located.lift .single (fun _ _ written => written)
      fun _ _ _ _ breaks => .single breaks⟩
  | @append kind left operator before blanks _ fits written defined blank apart _ _ ih =>
    obtain ⟨front, rfl, located⟩ := ih
    refine ⟨(before ++ (blanks ++ operator.symbol)) ++ front,
      by simp only [List.append_assoc],
      located.within (before ++ (blanks ++ operator.symbol))
        (fun right text further => ?_) fun c rest same other breaks => ?_⟩
    · refine ⟨left.append operator fits right, [], ?_⟩
      simpa only [List.append_assoc, List.append_nil] using
        Expression.writtenAs_append fits written further blank
    · subst same
      have still := apart.congr (head?_append_cons front c rest other)
      simpa only [List.append_assoc] using Breaks.append fits written defined blank still breaks

/-! ## Whole texts -/

/-- The characters that the operators of a chain start with. -/
def Chain.initials : Chain → List Char
  | .sum => ['+', '-']
  | .product => ['*', '/', '%']

theorem Chain.operator?_cons_eq_none_iff {kind : Chain} {c : Char} {rest : List Char} :
    kind.operator? (c :: rest) = none ↔ c ∉ kind.initials := by
  cases kind with
  | sum =>
    dsimp only [operator?, initials]
    unfold sumOperator?
    split <;> simp_all
  | product =>
    dsimp only [operator?, initials]
    unfold productOperator?
    split <;> simp_all

/-- What does not belong to an expression does not because of how it starts. -/
theorem ends_congr {front blanks : List Char} (blank : Text.Blank blanks) {c : Char}
    (visible : Text.isBlank c = false) {rest : List Char}
    (ends : (Level.chain .sum).Ends front (blanks ++ c :: rest)) (other : List Char) :
    (Level.chain .sum).Ends front (blanks ++ c :: other) := by
  have trimmed : ∀ more, Text.trimStart (blanks ++ c :: more) = c :: more := fun more => by
    rw [Text.trimStart_append blank, Text.trimStart_cons _ visible]
  obtain ⟨⟨⟨separate, -⟩, product⟩, sum⟩ := ends
  rw [trimmed] at product sum
  rw [Chain.operator?_cons_eq_none_iff] at product sum
  refine ⟨⟨⟨fun last here part => ?_, ?_⟩, ?_⟩, ?_⟩
  · rw [← head?_append_cons blanks c rest other]
    exact separate last here part
  · have not_asterisk : c ≠ '*' := fun same => product (same ▸ List.mem_cons_self)
    rw [trimmed]
    simp [Operator.symbol, Text.after?, Ne.symm not_asterisk]
  · rw [trimmed]
    exact Chain.operator?_cons_eq_none_iff.2 product
  · rw [trimmed]
    exact Chain.operator?_cons_eq_none_iff.2 sum

namespace Rejects

theorem shown {text : List Char} {fault : Fault (List Char)} (rejects : Rejects text fault) :
    fault.Shown := by
  cases rejects with
  | broken breaks => exact breaks.shown
  | trailing _ _ _ visible => exact ⟨visible, _, rfl⟩

/-- The number 0 as an operand of sums. -/
def zeroOperand : Expression Chain.sum.operand :=
  .single (.plain (.unsigned (.number zero)))

/-- **A fault is located in the text**, if what it is about belongs to the expression or not. -/
theorem located {text : List Char} {fault : Fault (List Char)} (rejects : Rejects text fault) :
    ∃ front, text = front ++ fault.rest ∧ Viable (.chain .sum) front ∧
      (∀ place, fault = .missingParenthesis place → Unclosed front) ∧
      ∀ c rest, fault = .unexpectedCharacter c (c :: rest) → ∀ other,
        Rejects (front ++ c :: other) (.unexpectedCharacter c (c :: other)) := by
  cases rejects with
  | broken breaks =>
    obtain ⟨front, split, viable, unclosed, persists⟩ := breaks.located
    exact ⟨front, split, viable, unclosed, fun c rest same other =>
      .broken (persists c rest same other)⟩
  | @trailing expression front blanks rest c written defined blank visible ends =>
    refine ⟨front ++ blanks, (List.append_assoc _ _ _).symm, ?_, nofun, fun d more same other => ?_⟩
    · refine ⟨expression.append .add (by decide) zeroOperand, ['+', '0'], ?_⟩
      rw [List.append_assoc]
      exact Expression.writtenAs_append (by decide) written
        (show zeroOperand.WrittenAs ['0'] from Spaced.flatten [['0']]) blank
    · cases same
      rw [List.append_assoc]
      exact .trailing written defined blank visible (ends_congr blank visible ends other)

end Rejects

/-- The result of an expression is no fault of its form. -/
theorem Expression.isSyntactic_of_result {level : Level} (expression : Expression level)
    {fault : Fault (List Char)} (failed : expression.result = .error fault) :
    fault.isSyntactic = false := by
  unfold result settle at failed
  split at failed
  · next division _ =>
    cases failed
    exact division.isSyntactic_fault
  · cases failed

/-- **An unexpected character is the first one from which the text cannot be completed.** -/
theorem not_viable {front : List Char} {c : Char}
    (persists : ∀ other, Rejects (front ++ c :: other) (.unexpectedCharacter c (c :: other))) :
    ¬Viable (.chain .sum) (front ++ [c]) := by
  rintro ⟨expression, after, written⟩
  rw [List.append_assoc, List.singleton_append] at written
  have rejected := evaluateTrimmed_of_rejects (persists after)
  rw [evaluateTrimmed_of_writtenAs written] at rejected
  cases expression.isSyntactic_of_result rejected

end CloudTemplate.Arithmetic

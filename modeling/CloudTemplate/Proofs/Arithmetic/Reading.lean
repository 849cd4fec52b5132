import CloudTemplate.Proofs.Arithmetic.Expression

/-!
# Reading expressions

What it means that a reader follows the grammar. A reader of a level takes an expression off the
front of a text and hands on the rest, so it has to be said where an expression ends: where nothing
of the rest belongs to it (`Level.Ends`). Expressions are evaluated while they are read, so a reader
need not come to the end of one: it stops at the first division by zero, with a beginning of an
expression read (`Stops`), or it breaks down where the text does not go on as an expression
(`Breaks`).

`ReadsAt` says of a reader and a text that the reader reads every expression that the text starts
with and that ends there, that it stops at a division by zero when it comes to one, that it breaks
down where the text does not go on, and that it does nothing else (`Explained`). Besides, the module
has what the readers of all levels rely on: how expressions start, how ends are kept when a text
grows at its front, and that an operator ends the operand before it (`Chain.ends_of_operator`).
-/

set_option autoImplicit false

namespace CloudTemplate.Arithmetic

/-! ## Where a reader stops -/

/-- The operator of a chain that a text starts with, and the text after it. -/
def Chain.operator? : Chain → List Char → Option (Operator × List Char)
  | .sum => sumOperator?
  | .product => productOperator?

/-- A number at the end of the text does not go on in the rest. -/
def Separate (text rest : List Char) : Prop :=
  ∀ c ∈ text.getLast?, isPart c = true → ∀ d ∈ rest.head?, isPart d = false

/-- Nothing of the rest belongs to the operand that ends the text: neither further digits nor an
exponent. -/
structure Ended (text rest : List Char) : Prop where
  separate : Separate text rest
  no_exponent : Text.after? Operator.power.symbol (Text.trimStart rest) = none

/-- Nothing of the rest belongs to an expression of the level that ends the text. -/
def Level.Ends : Level → List Char → List Char → Prop
  | .operand, text, rest => Separate text rest
  | .signed, text, rest => Separate text rest
  | .power, text, rest => Ended text rest
  | .chain .product, text, rest =>
    Ended text rest ∧ Chain.product.operator? (Text.trimStart rest) = none
  | .chain .sum, text, rest =>
    (Ended text rest ∧ Chain.product.operator? (Text.trimStart rest) = none) ∧
      Chain.sum.operator? (Text.trimStart rest) = none

theorem Chain.ends_iff {kind : Chain} {text rest : List Char} :
    (Level.chain kind).Ends text rest ↔
      kind.operand.Ends text rest ∧ kind.operator? (Text.trimStart rest) = none := by
  cases kind <;> rfl

/-- What is left of the rest. Where an operator may come next, the blanks before it are gone. -/
def Level.left : Level → List Char → List Char
  | .operand, rest => rest
  | .signed, rest => rest
  | .power, rest => Text.trimStart rest
  | .chain _, rest => Text.trimStart rest

@[simp] theorem Level.trimStart_left (level : Level) (rest : List Char) :
    Text.trimStart (level.left rest) = Text.trimStart rest := by
  cases level <;> simp [Level.left]

/-! ## Where a reader is stopped -/

/-- Reading an expression of the level comes to a division by zero when it has read the tokens. All
that comes before it has a value. -/
inductive Stops : Level → List (List Char) → Division → Prop where
  | division {kind : Chain} {left : Expression (.chain kind)} {operator : Operator}
      (fits : operator ∈ kind.operators) {right : Expression kind.operand}
      (before : left.Defined) (divisor : right.Defined) (divides : operator.divides = true)
      (zero : (right.value == 0.0) = true) :
      Stops (.chain kind) (left.tokens ++ operator.symbol :: right.tokens) ⟨operator, right.value⟩
  | append {kind : Chain} {left : Expression (.chain kind)} {operator : Operator}
      (fits : operator ∈ kind.operators) (before : left.Defined) {tokens : List (List Char)}
      {met : Division} (stops : Stops kind.operand tokens met) :
      Stops (.chain kind) (left.tokens ++ operator.symbol :: tokens) met
  | single {kind : Chain} {tokens : List (List Char)} {met : Division}
      (stops : Stops kind.operand tokens met) : Stops (.chain kind) tokens met
  | raised {base : Expression .signed} (before : base.Defined) {tokens : List (List Char)}
      {met : Division} (stops : Stops .power tokens met) :
      Stops .power (base.tokens ++ Operator.power.symbol :: tokens) met
  | plain {tokens : List (List Char)} {met : Division} (stops : Stops .signed tokens met) :
      Stops .power tokens met
  | signed (sign : Sign) {tokens : List (List Char)} {met : Division}
      (stops : Stops .signed tokens met) : Stops .signed ([sign.symbol] :: tokens) met
  | unsigned {tokens : List (List Char)} {met : Division} (stops : Stops .operand tokens met) :
      Stops .signed tokens met
  | parenthesis {tokens : List (List Char)} {met : Division}
      (stops : Stops (.chain .sum) tokens met) : Stops .operand (['('] :: tokens) met

/-- The text does not start with a sign. -/
def Unsigned (text : List Char) : Prop :=
  ∀ (sign : Sign) (rest : List Char), Text.trimStart text ≠ sign.symbol :: rest

/-- The operator and the text after it are not taken for a longer operator. -/
def Operator.Apart (operator : Operator) (rest : List Char) : Prop :=
  ∀ c ∈ rest.head?, ¬(operator = .multiply ∧ c = '*') ∧ ¬(operator = .divide ∧ c = '/')

/-- Reading an expression of the level breaks down in the text with the fault. All that comes before
the place of the fault belongs to an expression, and what has been read of it has a value. -/
inductive Breaks : Level → List Char → Fault (List Char) → Prop where
  | ended {blanks : List Char} (blank : Text.Blank blanks) : Breaks .operand blanks .unexpectedEnd
  | character {blanks : List Char} (blank : Text.Blank blanks) {c : Char}
      (visible : Text.isBlank c = false) (parenthesis : c ≠ '(') (part : isPart c = false)
      (rest : List Char) :
      Breaks .operand (blanks ++ c :: rest) (.unexpectedCharacter c (c :: rest))
  | number {blanks : List Char} (blank : Text.Blank blanks) {text : List Char} {c : Char}
      (first : text.head? = some c) (part : isPart c = true)
      (unread : Decimal.unsigned? (text.takeWhile isPart) = none) :
      Breaks .operand (blanks ++ text)
        (.invalidNumber (String.ofList (text.takeWhile isPart)) text)
  | unclosed {blanks : List Char} (blank : Text.Blank blanks) {sum : Expression (.chain .sum)}
      {front rest : List Char} (written : sum.WrittenAs front) (defined : sum.Defined)
      (ends : (Level.chain .sum).Ends front rest)
      (missing : (Text.trimStart rest).head? ≠ some ')') :
      Breaks .operand (blanks ++ '(' :: (front ++ rest))
        (.missingParenthesis (Text.trimStart rest))
  | parenthesis {blanks : List Char} (blank : Text.Blank blanks) {text : List Char}
      {fault : Fault (List Char)} (breaks : Breaks (.chain .sum) text fault) :
      Breaks .operand (blanks ++ '(' :: text) fault
  | unsigned {text : List Char} {fault : Fault (List Char)} (unsigned : Unsigned text)
      (breaks : Breaks .operand text fault) : Breaks .signed text fault
  | signed {blanks : List Char} (blank : Text.Blank blanks) (sign : Sign) {text : List Char}
      {fault : Fault (List Char)} (breaks : Breaks .signed text fault) :
      Breaks .signed (blanks ++ sign.symbol :: text) fault
  | plain {text : List Char} {fault : Fault (List Char)} (breaks : Breaks .signed text fault) :
      Breaks .power text fault
  | raised {base : Expression .signed} {front blanks text : List Char}
      (written : base.WrittenAs front) (before : base.Defined) (blank : Text.Blank blanks)
      {fault : Fault (List Char)} (breaks : Breaks .power text fault) :
      Breaks .power (front ++ (blanks ++ (Operator.power.symbol ++ text))) fault
  | single {kind : Chain} {text : List Char} {fault : Fault (List Char)}
      (breaks : Breaks kind.operand text fault) : Breaks (.chain kind) text fault
  | append {kind : Chain} {left : Expression (.chain kind)} {operator : Operator}
      {front blanks text : List Char} (fits : operator ∈ kind.operators)
      (written : left.WrittenAs front) (before : left.Defined) (blank : Text.Blank blanks)
      (apart : operator.Apart text) {fault : Fault (List Char)}
      (breaks : Breaks kind.operand text fault) :
      Breaks (.chain kind) (front ++ (blanks ++ (operator.symbol ++ text))) fault

/-- A reader breaks down for the form of the text only. -/
theorem Breaks.isSyntactic {level : Level} {text : List Char} {fault : Fault (List Char)}
    (breaks : Breaks level text fault) : fault.isSyntactic = true := by
  induction breaks with
  | ended | character | number | unclosed => rfl
  | parenthesis _ _ ih | unsigned _ _ ih | signed _ _ _ ih | plain _ ih | single _ ih => exact ih
  | raised _ _ _ _ ih => exact ih
  | append _ _ _ _ _ _ ih => exact ih

/-- What a reader of the level makes of a text: it reads an expression that has a value, or it comes
to a division by zero, or it breaks down. -/
inductive Explained (level : Level) (text : List Char) :
    Except (Fault (List Char)) (Float × List Char) → Prop where
  | read (expression : Expression level) {front rest : List Char} (split : text = front ++ rest)
      (written : expression.WrittenAs front) (ends : level.Ends front rest)
      (defined : expression.Defined) :
      Explained level text (.ok (expression.value, level.left rest))
  | stopped {tokens : List (List Char)} {met : Division} (stops : Stops level tokens met)
      {front rest : List Char} (split : text = front ++ rest) (spaced : Spaced tokens front)
      (ended : Ended front rest) : Explained level text (.error met.fault)
  | malformed {fault : Fault (List Char)} (breaks : Breaks level text fault) :
      Explained level text (.error fault)

/-- The reader does at the text what the grammar of the level says. -/
structure ReadsAt (level : Level) (reader : Reader) (text : List Char) : Prop where
  /-- An expression in front of what does not belong to it is read, and its divisions are carried
  out. -/
  complete : ∀ (expression : Expression level) {front rest : List Char}, text = front ++ rest →
    expression.WrittenAs front → level.Ends front rest →
    reader text = (·, level.left rest) <$> expression.result
  /-- Reading stops at the first division by zero. -/
  stops : ∀ {tokens : List (List Char)} {met : Division} {front rest : List Char},
    text = front ++ rest → Stops level tokens met → Spaced tokens front → Ended front rest →
    reader text = .error met.fault
  /-- Reading breaks down where the text does not go on as an expression. -/
  breaks : ∀ {fault : Fault (List Char)}, Breaks level text fault → reader text = .error fault
  explained : Explained level text (reader text)

/-! ## Characters -/

theorem isBlank_eq_false_of_isPart {c : Char} (part : isPart c = true) :
    Text.isBlank c = false := by
  have range : 46 ≤ c.toNat ∧ c.toNat ≤ 57 := by
    rcases Bool.or_eq_true_iff.1 part with digit | point
    · obtain ⟨low, high⟩ := Bool.and_eq_true_iff.1 digit
      have least : '0'.toNat ≤ c.toNat := of_decide_eq_true low
      have greatest : c.toNat ≤ '9'.toNat := of_decide_eq_true high
      exact ⟨Nat.le_trans (by decide) least, greatest⟩
    · rw [beq_iff_eq.1 point]
      decide
  unfold Text.isBlank
  dsimp only
  grind

/-- The first character of the first token is no asterisk and no slash. -/
def Leads (tokens : List (List Char)) : Prop :=
  ∃ c token others, tokens = (c :: token) :: others ∧ c ≠ '*' ∧ c ≠ '/'

theorem Leads.append {tokens : List (List Char)} (leads : Leads tokens)
    (others : List (List Char)) : Leads (tokens ++ others) := by
  obtain ⟨c, token, more, rfl, first, second⟩ := leads
  exact ⟨c, token, more ++ others, rfl, first, second⟩

theorem Leads.exists_cons {tokens : List (List Char)} (leads : Leads tokens) {text : List Char}
    (spaced : Spaced tokens text) : ∃ c rest, text = c :: rest ∧ c ≠ '*' ∧ c ≠ '/' := by
  obtain ⟨c, token, others, rfl, first, second⟩ := leads
  cases spaced with
  | @cons blanks _ rest _ blank _ =>
    cases blanks with
    | nil => exact ⟨c, token ++ rest, rfl, first, second⟩
    | cons d blanks =>
      refine ⟨d, _, rfl, ?_, ?_⟩
      · rintro rfl
        exact Bool.false_ne_true (blank _ List.mem_cons_self)
      · rintro rfl
        exact Bool.false_ne_true (blank _ List.mem_cons_self)

/-- A literal starts with a digit or a point. -/
theorem Literal.exists_cons (literal : Literal) :
    ∃ c rest, literal.digits = c :: rest ∧ isPart c = true := by
  cases digits : literal.digits with
  | nil =>
    have reads := literal.reads
    rw [digits] at reads
    cases reads
  | cons c rest => exact ⟨c, rest, rfl, literal.parts c (digits ▸ List.mem_cons_self)⟩

theorem Sign.leads (sign : Sign) (tokens : List (List Char)) :
    Leads ([sign.symbol] :: tokens) := by
  cases sign with
  | plus => exact ⟨'+', [], tokens, rfl, by decide, by decide⟩
  | minus => exact ⟨'-', [], tokens, rfl, by decide, by decide⟩

theorem Expression.leads : {level : Level} → (expression : Expression level) →
    Leads expression.tokens
  | _, .number literal => by
    obtain ⟨c, rest, digits, part⟩ := literal.exists_cons
    refine ⟨c, rest, [], congrArg (fun token => [token]) digits, ?_, ?_⟩
    · rintro rfl
      exact Bool.false_ne_true part
    · rintro rfl
      exact Bool.false_ne_true part
  | _, .parenthesized inner => ⟨'(', [], _, rfl, by decide, by decide⟩
  | _, .unsigned operand => operand.leads
  | _, .signed sign operand => sign.leads operand.tokens
  | _, .plain base => base.leads
  | _, .raised base _ => base.leads.append _
  | _, .single operand => operand.leads
  | _, .append left _ _ _ => left.leads.append _

theorem Stops.leads {level : Level} {tokens : List (List Char)} {met : Division}
    (stops : Stops level tokens met) : Leads tokens := by
  induction stops with
  | @division _ left => exact left.leads.append _
  | @append _ left => exact left.leads.append _
  | single _ ih => exact ih
  | @raised base => exact base.leads.append _
  | plain _ ih => exact ih
  | signed sign => exact sign.leads _
  | unsigned _ ih => exact ih
  | parenthesis => exact ⟨'(', [], _, rfl, by decide, by decide⟩

theorem Leads.ne_nil {tokens : List (List Char)} (leads : Leads tokens) {text : List Char}
    (spaced : Spaced tokens text) : text ≠ [] := by
  obtain ⟨c, rest, rfl, -⟩ := leads.exists_cons spaced
  exact List.cons_ne_nil c rest

/-! ## Ends of texts -/

theorem Separate.of_append {front text rest : List Char}
    (separate : Separate (front ++ text) rest) : Separate text rest := by
  intro c last
  refine separate c ?_
  rw [List.getLast?_append, Option.mem_def.1 last]
  rfl

theorem Separate.append {text rest : List Char} (separate : Separate text rest)
    (nonempty : text ≠ []) (front : List Char) : Separate (front ++ text) rest := by
  intro c last
  refine separate c ?_
  rwa [List.getLast?_append, List.getLast?_eq_some_getLast nonempty, Option.some_or,
    ← List.getLast?_eq_some_getLast nonempty] at last

/-- A text that goes on with something else than a digit or a point is separate from it. -/
theorem Separate.of_head {text rest : List Char} {d : Char} (other : isPart d = false) :
    Separate text (d :: rest) := by
  intro c _ _ e first
  cases first
  exact other

theorem Ended.of_append {front text rest : List Char} (ended : Ended (front ++ text) rest) :
    Ended text rest :=
  ⟨ended.separate.of_append, ended.no_exponent⟩

theorem Ended.append {text rest : List Char} (ended : Ended text rest) (nonempty : text ≠ [])
    (front : List Char) : Ended (front ++ text) rest :=
  ⟨ended.separate.append nonempty front, ended.no_exponent⟩

theorem Level.Ends.of_append {level : Level} {front text rest : List Char}
    (ends : level.Ends (front ++ text) rest) : level.Ends text rest := by
  match level with
  | .operand | .signed => exact Separate.of_append ends
  | .power => exact Ended.of_append ends
  | .chain .product => exact ⟨ends.1.of_append, ends.2⟩
  | .chain .sum => exact ⟨⟨ends.1.1.of_append, ends.1.2⟩, ends.2⟩

theorem Level.Ends.append {level : Level} {text rest : List Char} (ends : level.Ends text rest)
    (nonempty : text ≠ []) (front : List Char) : level.Ends (front ++ text) rest := by
  match level with
  | .operand | .signed => exact Separate.append ends nonempty front
  | .power => exact Ended.append ends nonempty front
  | .chain .product => exact ⟨ends.1.append nonempty front, ends.2⟩
  | .chain .sum => exact ⟨⟨ends.1.1.append nonempty front, ends.1.2⟩, ends.2⟩

/-- The operand of a chain ends where no exponent follows. -/
theorem Chain.ended {kind : Chain} {text rest : List Char} (ends : kind.operand.Ends text rest) :
    Ended text rest := by
  cases kind with
  | sum => exact ends.1
  | product => exact ends

theorem Level.length_left_le (level : Level) (rest : List Char) :
    (level.left rest).length ≤ rest.length := by
  cases level with
  | operand | signed => exact Nat.le_refl _
  | power | chain => exact (List.dropWhile_suffix _).length_le

/-- A character that is blank or starts a token other than a number is no part of a number. -/
theorem isPart_eq_false_of_isBlank {c : Char} (blank : Text.isBlank c = true) :
    isPart c = false := by
  refine Bool.eq_false_iff.2 fun part => ?_
  rw [isBlank_eq_false_of_isPart part] at blank
  cases blank

/-- Blanks and then a token that is no number separate what is before them. -/
theorem separate_blanks {blanks : List Char} (blank : Text.Blank blanks)
    {text rest : List Char} {d : Char} (other : isPart d = false) :
    Separate text (blanks ++ d :: rest) := by
  cases blanks with
  | nil => exact .of_head other
  | cons c blanks => exact .of_head (isPart_eq_false_of_isBlank (blank c List.mem_cons_self))

/-! ## Operators -/

/-- A text that starts with neither an asterisk nor a slash is apart from any operator. -/
theorem Operator.apart_cons {c : Char} (not_asterisk : c ≠ '*') (not_slash : c ≠ '/')
    (operator : Operator) (rest : List Char) : operator.Apart (c :: rest) := by
  rintro d first
  cases first
  exact ⟨fun both => not_asterisk both.2, fun both => not_slash both.2⟩

/-- An operator of a chain is read off the text if it is not taken for a longer one. -/
theorem Chain.operator?_symbol {kind : Chain} {operator : Operator}
    (fits : operator ∈ kind.operators) {rest : List Char} (apart : operator.Apart rest) :
    kind.operator? (operator.symbol ++ rest) = some (operator, rest) := by
  cases kind with
  | sum =>
    simp only [operators, List.mem_cons, List.not_mem_nil, or_false] at fits
    rcases fits with rfl | rfl <;> rfl
  | product =>
    simp only [operators, List.mem_cons, List.not_mem_nil, or_false] at fits
    rcases fits with rfl | rfl | rfl | rfl
    · rfl
    · cases rest with
      | nil => rfl
      | cons c rest =>
        have not_slash : c ≠ '/' := fun same => (apart c rfl).2 ⟨rfl, same⟩
        simp [operator?, Operator.symbol, productOperator?, not_slash]
    · rfl
    · rfl

theorem Chain.operator?_eq_some {kind : Chain} {operator : Operator} {text rest : List Char}
    (found : kind.operator? text = some (operator, rest)) :
    operator ∈ kind.operators ∧ text = operator.symbol ++ rest := by
  cases kind with
  | sum =>
    dsimp only [operator?] at found
    unfold sumOperator? at found
    split at found <;> cases found <;> exact ⟨by decide, rfl⟩
  | product =>
    dsimp only [operator?] at found
    unfold productOperator? at found
    split at found <;> cases found <;> exact ⟨by decide, rfl⟩

/-- The symbol of an operator is no blank and no part of a number. -/
theorem Operator.exists_symbol_cons (operator : Operator) :
    ∃ c rest, operator.symbol = c :: rest ∧ Text.isBlank c = false ∧ isPart c = false := by
  cases operator <;> exact ⟨_, _, rfl, by decide, by decide⟩

theorem Operator.trimStart_symbol (operator : Operator) {blanks : List Char}
    (blank : Text.Blank blanks) (rest : List Char) :
    Text.trimStart (blanks ++ (operator.symbol ++ rest)) = operator.symbol ++ rest := by
  obtain ⟨c, more, symbol, visible, -⟩ := operator.exists_symbol_cons
  rw [Text.trimStart_append blank, symbol, List.cons_append, Text.trimStart_cons _ visible]

theorem Operator.separate_symbol (operator : Operator) {blanks : List Char}
    (blank : Text.Blank blanks) (text rest : List Char) :
    Separate text (blanks ++ (operator.symbol ++ rest)) := by
  obtain ⟨c, more, symbol, -, other⟩ := operator.exists_symbol_cons
  rw [symbol, List.cons_append]
  exact separate_blanks blank other

/-- Where an operator of a chain follows, the operand before it ends. -/
theorem Chain.ends_of_operator {kind : Chain} {operator : Operator}
    (fits : operator ∈ kind.operators) {blanks : List Char}
    (blank : Text.Blank blanks) (text : List Char) {rest : List Char}
    (apart : operator.Apart rest) :
    kind.operand.Ends text (blanks ++ (operator.symbol ++ rest)) := by
  have separate := operator.separate_symbol blank text rest
  have trimmed := operator.trimStart_symbol blank rest
  cases kind with
  | sum =>
    simp only [operators, List.mem_cons, List.not_mem_nil, or_false] at fits
    refine ⟨⟨separate, ?_⟩, ?_⟩ <;> rw [trimmed] <;> rcases fits with rfl | rfl <;> rfl
  | product =>
    simp only [operators, List.mem_cons, List.not_mem_nil, or_false] at fits
    refine ⟨separate, ?_⟩
    rw [trimmed]
    rcases fits with rfl | rfl | rfl | rfl
    · cases rest with
      | nil => rfl
      | cons c rest =>
        have not_asterisk : c ≠ '*' := fun same => (apart c rfl).1 ⟨rfl, same⟩
        simp [Operator.symbol, Text.after?, Ne.symm not_asterisk]
    · rfl
    · rfl
    · rfl

/-- The operator that is found after an operand is apart from the text after it. -/
theorem Chain.apart_of_operator? {kind : Chain} {operator : Operator} {text rest : List Char}
    (found : kind.operator? text = some (operator, rest))
    (no_exponent : Text.after? Operator.power.symbol text = none) : operator.Apart rest := by
  intro c first
  obtain ⟨more, rfl⟩ := List.head?_eq_some_iff.1 first
  obtain ⟨-, rfl⟩ := operator?_eq_some found
  constructor
  · rintro ⟨rfl, rfl⟩
    cases no_exponent
  · rintro ⟨rfl, rfl⟩
    cases kind <;> cases found

end CloudTemplate.Arithmetic

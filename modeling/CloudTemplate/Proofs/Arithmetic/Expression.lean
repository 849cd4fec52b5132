import CloudTemplate.Arithmetic.Evaluate
import CloudTemplate.Proofs.Outcome

/-!
# Arithmetic expressions

The grammar of arithmetic expressions, apart from its reader. In the order in which its operators
bind,

* a sum is a product, or a sum, `+` or `-`, and a product;
* a product is a power, or a product, `*`, `/`, `//` or `%`, and a power;
* a power is a signed operand, or a signed operand, `**`, and a power;
* a signed operand is an operand, or a sign and a signed operand;
* an operand is a number, or a sum in parentheses.

An `Expression` is a derivation tree of this grammar, so sums and products group from the left and
powers from the right by their form. It has a value, which takes every operator for a function on
all numbers (`Expression.value`), and it has the divisions that are carried out for it, in the order
of evaluation from the left to the right (`Expression.divisions`). Whether a divisor is zero is a
question for these alone: `Expression.result` is the value unless there is one, and the fault of the
first otherwise. An expression is written as its tokens with blanks between them
(`Expression.WrittenAs`).
-/

set_option autoImplicit false

namespace CloudTemplate.Arithmetic

/-! ## Operators and divisions -/

namespace Operator

/-- How the operator is written. -/
def symbol : Operator → List Char
  | .add => ['+']
  | .subtract => ['-']
  | .multiply => ['*']
  | .divide => ['/']
  | .floorDivide => ['/', '/']
  | .modulo => ['%']
  | .power => ['*', '*']

/-- The operator as a function on all numbers. -/
def value : Operator → Float → Float → Float
  | .add, left, right => left + right
  | .subtract, left, right => left - right
  | .multiply, left, right => left * right
  | .divide, left, right => left / right
  | .floorDivide, left, right => Decimal.floor (left / right)
  | .modulo, left, right => Decimal.remainder left right
  | .power, left, right => Float.pow left right

/-- Whether the right number is a divisor. -/
def divides : Operator → Bool
  | .divide | .floorDivide | .modulo => true
  | _ => false

end Operator

/-- An operator and its right number, which is a divisor. -/
structure Division where
  operator : Operator
  divisor : Float

namespace Division

/-- Whether the divisor is zero. -/
def byZero (division : Division) : Bool :=
  division.divisor == 0.0

/-- The fault of a division by zero. -/
def fault {Place : Type} (division : Division) : Fault Place :=
  if division.operator = .modulo then .moduloByZero else .divisionByZero

theorem isSyntactic_fault {Place : Type} (division : Division) :
    (division.fault : Fault Place).isSyntactic = false := by
  unfold fault
  split <;> rfl

end Division

/-- The division that an operator carries out at its right number, if it is one that divides. -/
def Operator.division (operator : Operator) (right : Float) : List Division :=
  if operator.divides then [⟨operator, right⟩] else []

/-- The outcome of a computation: its value, or the fault of the first division by zero. -/
def settle {Place : Type} (divisions : List Division) (value : Float) :
    Except (Fault Place) Float :=
  match divisions.find? Division.byZero with
  | some division => .error division.fault
  | none => .ok value

theorem settle_append {Place : Type} (divisions others : List Division) (value other : Float) :
    (settle (divisions ++ others) other : Except (Fault Place) Float) =
      settle divisions value >>= fun _ => settle others other := by
  unfold settle
  rw [List.find?_append]
  cases divisions.find? Division.byZero <;> rfl

/-- What comes after a computation that does not fail goes on with its value. -/
theorem settle_bind {Place α : Type} (divisions : List Division) (value : Float)
    (next : Float → Except (Fault Place) α) :
    settle divisions value >>= next = settle divisions value >>= fun _ => next value := by
  unfold settle
  cases divisions.find? Division.byZero <;> rfl

/-- A single division fails when its divisor is zero. -/
theorem settle_singleton {Place : Type} (division : Division) (value : Float) :
    (settle [division] value : Except (Fault Place) Float) =
      if division.divisor == 0.0 then .error division.fault else .ok value := by
  unfold settle
  rw [List.find?_singleton]
  unfold Division.byZero
  cases division.divisor == 0.0 <;> rfl

/-- An operator is applied by carrying out its division and computing its value. -/
theorem Operator.apply_eq {Place : Type} (operator : Operator) (left right : Float) :
    (operator.apply left right : Except (Fault Place) Float) =
      settle (operator.division right) (operator.value left right) := by
  cases operator with
  | divide => exact (settle_singleton ⟨.divide, right⟩ _).symm
  | floorDivide => exact (settle_singleton ⟨.floorDivide, right⟩ _).symm
  | modulo => exact (settle_singleton ⟨.modulo, right⟩ _).symm
  | _ => rfl

theorem Operator.apply_zero {Place : Type} {operator : Operator} (divides : operator.divides = true)
    (left : Float) {right : Float} (zero : (right == 0.0) = true) :
    (operator.apply left right : Except (Fault Place) Float) =
      .error (Division.fault ⟨operator, right⟩) := by
  rw [operator.apply_eq, division, if_pos divides, settle_singleton, if_pos zero]

/-- An operator either divides by zero, or it gives its value. -/
theorem Operator.apply_cases {Place : Type} (operator : Operator) (left right : Float) :
    (operator.divides = true ∧ (right == 0.0) = true ∧
      (operator.apply left right : Except (Fault Place) Float) =
        .error (Division.fault ⟨operator, right⟩)) ∨
    ((∀ division ∈ operator.division right, division.byZero = false) ∧
      (operator.apply left right : Except (Fault Place) Float) =
        .ok (operator.value left right)) := by
  cases divides : operator.divides with
  | false =>
    rw [operator.apply_eq, division, divides]
    exact .inr ⟨nofun, rfl⟩
  | true =>
    by_cases zero : (right == 0.0) = true
    · exact .inl ⟨rfl, zero, apply_zero divides left zero⟩
    · rw [operator.apply_eq, division, if_pos divides, settle_singleton]
      refine .inr ⟨fun division listed => ?_, if_neg zero⟩
      rw [List.mem_singleton.1 listed]
      exact Bool.eq_false_iff.2 zero

/-! ## Derivation trees -/

/-- The signs before an operand. -/
inductive Sign where
  | plus
  | minus

namespace Sign

/-- How the sign is written. -/
def symbol : Sign → Char
  | .plus => '+'
  | .minus => '-'

/-- The sign as a function on all numbers. -/
def value : Sign → Float → Float
  | .plus, operand => operand
  | .minus, operand => -operand

end Sign

/-- The two kinds of expressions that are chains of operands, which group from the left. -/
inductive Chain where
  | sum
  | product
  deriving DecidableEq

/-- The levels of the grammar. -/
inductive Level where
  | operand
  | signed
  | power
  | chain (kind : Chain)

/-- The level of the operands of a chain. -/
def Chain.operand : Chain → Level
  | .sum => .chain .product
  | .product => .power

/-- The operators of a chain. -/
def Chain.operators : Chain → List Operator
  | .sum => [.add, .subtract]
  | .product => [.multiply, .divide, .floorDivide, .modulo]

/-- The characters of numbers: digits and points. -/
def isPart (c : Char) : Bool :=
  Decimal.isDigit c || c == '.'

/-- A number as it is written: digits and points that have a value. -/
structure Literal where
  digits : List Char
  parts : ∀ c ∈ digits, isPart c = true
  value : Float
  reads : Decimal.unsigned? digits = some value

/-- The derivation trees of the grammar. -/
inductive Expression : Level → Type where
  | number (literal : Literal) : Expression .operand
  | parenthesized (inner : Expression (.chain .sum)) : Expression .operand
  | unsigned (operand : Expression .operand) : Expression .signed
  | signed (sign : Sign) (operand : Expression .signed) : Expression .signed
  | plain (base : Expression .signed) : Expression .power
  | raised (base : Expression .signed) (exponent : Expression .power) : Expression .power
  | single {kind : Chain} (operand : Expression kind.operand) : Expression (.chain kind)
  | append {kind : Chain} (left : Expression (.chain kind)) (operator : Operator)
      (fits : operator ∈ kind.operators) (right : Expression kind.operand) :
      Expression (.chain kind)

namespace Expression

/-- The value, which exists whatever the divisors are. -/
def value : {level : Level} → Expression level → Float
  | _, .number literal => literal.value
  | _, .parenthesized inner => inner.value
  | _, .unsigned operand => operand.value
  | _, .signed sign operand => sign.value operand.value
  | _, .plain base => base.value
  | _, .raised base exponent => Operator.power.value base.value exponent.value
  | _, .single operand => operand.value
  | _, .append left operator _ right => operator.value left.value right.value

/-- The divisions that are carried out, in their order: those in the left operand, those in the
right operand, and then that of the operator. -/
def divisions : {level : Level} → Expression level → List Division
  | _, .number _ => []
  | _, .parenthesized inner => inner.divisions
  | _, .unsigned operand => operand.divisions
  | _, .signed _ operand => operand.divisions
  | _, .plain base => base.divisions
  | _, .raised base exponent => base.divisions ++ exponent.divisions
  | _, .single operand => operand.divisions
  | _, .append left operator _ right =>
    left.divisions ++ (right.divisions ++ operator.division right.value)

/-- The value, or the fault of the first division by zero. -/
def result {Place : Type} {level : Level} (expression : Expression level) :
    Except (Fault Place) Float :=
  settle expression.divisions expression.value

/-- No divisor is zero. -/
def Defined {level : Level} (expression : Expression level) : Prop :=
  ∀ division ∈ expression.divisions, division.byZero = false

/-- The tokens in their order. -/
def tokens : {level : Level} → Expression level → List (List Char)
  | _, .number literal => [literal.digits]
  | _, .parenthesized inner => ['('] :: (inner.tokens ++ [[')']])
  | _, .unsigned operand => operand.tokens
  | _, .signed sign operand => [sign.symbol] :: operand.tokens
  | _, .plain base => base.tokens
  | _, .raised base exponent => base.tokens ++ Operator.power.symbol :: exponent.tokens
  | _, .single operand => operand.tokens
  | _, .append left operator _ right => left.tokens ++ operator.symbol :: right.tokens

theorem Defined.result_eq {Place : Type} {level : Level} {expression : Expression level}
    (defined : expression.Defined) :
    (expression.result : Except (Fault Place) Float) = .ok expression.value := by
  unfold result settle
  rw [List.find?_eq_none.2 fun division listed => Bool.eq_false_iff.1 (defined division listed)]

theorem Defined.raised {base : Expression .signed} {exponent : Expression .power}
    (before : base.Defined) (after : exponent.Defined) : (base.raised exponent).Defined :=
  List.forall_mem_append.2 ⟨before, after⟩

theorem Defined.append {kind : Chain} {left : Expression (.chain kind)} {operator : Operator}
    {fits : operator ∈ kind.operators} {right : Expression kind.operand} (before : left.Defined)
    (after : right.Defined)
    (here : ∀ division ∈ operator.division right.value, division.byZero = false) :
    (left.append operator fits right).Defined :=
  List.forall_mem_append.2 ⟨before, List.forall_mem_append.2 ⟨after, here⟩⟩

theorem result_signed {Place : Type} (sign : Sign) (operand : Expression .signed) :
    ((operand.signed sign).result : Except (Fault Place) Float) =
      sign.value <$> operand.result := by
  unfold result settle
  dsimp only [divisions, value]
  cases operand.divisions.find? Division.byZero <;> rfl

/-- The outcome of an operator is that of applying it to the outcomes of its operands, the left one
first. -/
theorem settle_apply {Place : Type} {level other : Level} (left : Expression level)
    (operator : Operator) (right : Expression other) :
    (settle (left.divisions ++ (right.divisions ++ operator.division right.value))
      (operator.value left.value right.value) : Except (Fault Place) Float) =
      left.result >>= fun x => right.result >>= fun y => operator.apply x y := by
  unfold result
  rw [settle_append _ _ left.value, settle_append _ _ right.value, ← operator.apply_eq,
    settle_bind _ _ fun x => settle right.divisions right.value >>= fun y => operator.apply x y,
    settle_bind _ _ (operator.apply left.value)]

theorem result_append {Place : Type} {kind : Chain} (left : Expression (.chain kind))
    (operator : Operator) (fits : operator ∈ kind.operators) (right : Expression kind.operand) :
    ((left.append operator fits right).result : Except (Fault Place) Float) =
      left.result >>= fun x => right.result >>= fun y => operator.apply x y :=
  settle_apply left operator right

theorem result_raised {Place : Type} (base : Expression .signed) (exponent : Expression .power) :
    ((base.raised exponent).result : Except (Fault Place) Float) =
      base.result >>= fun x => exponent.result >>= fun y => Operator.power.apply x y := by
  rw [← settle_apply, show Operator.power.division exponent.value = [] from rfl, List.append_nil]
  rfl

end Expression

/-! ## Written expressions -/

/-- The text consists of the tokens, with any number of blanks before each of them. -/
inductive Spaced : List (List Char) → List Char → Prop where
  | nil : Spaced [] []
  | cons {blanks token rest : List Char} {tokens : List (List Char)}
      (blank : Text.Blank blanks) (spaced : Spaced tokens rest) :
      Spaced (token :: tokens) (blanks ++ (token ++ rest))

namespace Spaced

theorem append {tokens others : List (List Char)} {text more : List Char}
    (spaced : Spaced tokens text) (further : Spaced others more) :
    Spaced (tokens ++ others) (text ++ more) := by
  induction spaced with
  | nil => exact further
  | cons blank _ ih =>
    rw [List.append_assoc, List.append_assoc]
    exact .cons blank ih

theorem exists_of_append {tokens others : List (List Char)} {text : List Char}
    (spaced : Spaced (tokens ++ others) text) :
    ∃ first second, text = first ++ second ∧ Spaced tokens first ∧ Spaced others second := by
  induction tokens generalizing text with
  | nil => exact ⟨[], text, rfl, .nil, spaced⟩
  | cons token tokens ih =>
    cases spaced with
    | cons blank further =>
      obtain ⟨first, second, rfl, one, other⟩ := ih further
      refine ⟨_, second, ?_, .cons blank one, other⟩
      simp only [List.append_assoc]

theorem exists_cons {token : List Char} {tokens : List (List Char)} {text : List Char}
    (spaced : Spaced (token :: tokens) text) :
    ∃ blanks rest, text = blanks ++ (token ++ rest) ∧ Text.Blank blanks ∧
      Spaced tokens rest := by
  cases spaced with
  | cons blank further => exact ⟨_, _, rfl, blank, further⟩

/-- Every character is a blank or stands in a token. -/
theorem mem {tokens : List (List Char)} {text : List Char} (spaced : Spaced tokens text) {c : Char}
    (member : c ∈ text) : Text.isBlank c = true ∨ ∃ token ∈ tokens, c ∈ token := by
  induction spaced with
  | nil => cases member
  | cons blank _ ih =>
    rcases List.mem_append.1 member with before | within
    · exact .inl (blank c before)
    · rcases List.mem_append.1 within with here | after
      · exact .inr ⟨_, List.mem_cons_self, here⟩
      · rcases ih after with blank | ⟨token, listed, inside⟩
        · exact .inl blank
        · exact .inr ⟨token, List.mem_cons_of_mem _ listed, inside⟩

/-- No blanks are needed. -/
theorem flatten (tokens : List (List Char)) : Spaced tokens tokens.flatten := by
  induction tokens with
  | nil => exact .nil
  | cons token tokens ih => exact .cons (List.forall_mem_nil _) ih

end Spaced

namespace Expression

/-- The text is a way to write the expression. -/
def WrittenAs {level : Level} (expression : Expression level) (text : List Char) : Prop :=
  Spaced expression.tokens text

/-- Every expression can be written. -/
theorem writtenAs_flatten {level : Level} (expression : Expression level) :
    expression.WrittenAs expression.tokens.flatten :=
  Spaced.flatten expression.tokens

/-- The characters of tokens. -/
def isToken (c : Char) : Bool :=
  isPart c || "+-*/%()".toList.contains c

theorem isToken_of_symbol (operator : Operator) : ∀ c ∈ operator.symbol, isToken c = true := by
  cases operator <;> exact List.all_eq_true.1 rfl

theorem isToken_of_mem : {level : Level} → (expression : Expression level) →
    ∀ token ∈ expression.tokens, ∀ c ∈ token, isToken c = true
  | _, .number literal =>
    List.forall_mem_cons.2 ⟨fun c member => Bool.or_eq_true_iff.2 (.inl (literal.parts c member)),
      List.forall_mem_nil _⟩
  | _, .parenthesized inner =>
    List.forall_mem_cons.2 ⟨List.forall_mem_singleton.2 rfl, List.forall_mem_append.2
      ⟨inner.isToken_of_mem, List.forall_mem_singleton.2 (List.forall_mem_singleton.2 rfl)⟩⟩
  | _, .unsigned operand => operand.isToken_of_mem
  | _, .signed sign operand =>
    List.forall_mem_cons.2 ⟨List.forall_mem_singleton.2 (by cases sign <;> rfl),
      operand.isToken_of_mem⟩
  | _, .plain base => base.isToken_of_mem
  | _, .raised base exponent =>
    List.forall_mem_append.2 ⟨base.isToken_of_mem,
      List.forall_mem_cons.2 ⟨isToken_of_symbol .power, exponent.isToken_of_mem⟩⟩
  | _, .single operand => operand.isToken_of_mem
  | _, .append left operator _ right =>
    List.forall_mem_append.2 ⟨left.isToken_of_mem,
      List.forall_mem_cons.2 ⟨isToken_of_symbol operator, right.isToken_of_mem⟩⟩

/-- A text with a character that is neither blank nor in any token is no expression. -/
theorem not_writtenAs_of_mem {text : List Char} {c : Char} (member : c ∈ text)
    (visible : Text.isBlank c = false) (foreign : isToken c = false) {level : Level}
    (expression : Expression level) : ¬expression.WrittenAs text := by
  intro written
  rcases Spaced.mem written member with blank | ⟨token, listed, inside⟩
  · rw [visible] at blank
    cases blank
  · rw [expression.isToken_of_mem token listed c inside] at foreign
    cases foreign

end Expression

end CloudTemplate.Arithmetic

import CloudTemplate.Proofs.Arithmetic.Cursor
import CloudTemplate.Proofs.Arithmetic.Faults

/-!
# The parser follows the readers

Where a reader hands on a text, the cursor of the parser stands before this text, and faults are met
at the same places (`Cursor.Follows`). So the parser does not get stuck, and the cursor only ever
stands between characters (`Cursor.parse_follows`).

Steps are put together with `Cursor.Follows.bind`, one parser after another as one reader after
another. The levels go as the readers do: signs, powers and chains by induction on the fuel of their
readers, each call on a shorter text, and sums by induction on the nesting.
-/

set_option autoImplicit false

namespace CloudTemplate.Arithmetic

theorem position_append (before text : List Char) :
    position (before ++ text) text = Text.utf8Size before := by
  rw [position, Text.utf8Size_append, Nat.add_sub_cancel_right]

namespace Cursor

/-! ## Following a reader -/

/-- The cursor stands before the text, and has only stood between characters. -/
structure At (input text : List Char) (cursor : Cursor) : Prop where
  before : ∃ front, input = front ++ text ∧ Text.utf8Size front = cursor.place
  passed : ∀ place ∈ cursor.passed, Text.IsBoundary input place

theorem At.isBoundary {input text : List Char} {cursor : Cursor} (at_text : At input text cursor) :
    ∀ place ∈ cursor.place :: cursor.passed, Text.IsBoundary input place := by
  obtain ⟨front, split, size⟩ := at_text.before
  exact List.forall_mem_cons.2 ⟨⟨front, text, split, size⟩, at_text.passed⟩

/-- The parser has the result of the reader, at the text that the reader hands on. Faults have the
byte before which the text of the reader stands, and the whole text is consumed when it ends too
early. -/
inductive Agrees (input : List Char) {α : Type} :
    Except (Fault (List Char)) (α × List Char) → Except (Fault Nat) α → List Char → Prop
  | read (x : α) (rest : List Char) : Agrees input (.ok (x, rest)) (.ok x) rest
  | failed {fault : Fault (List Char)} {rest : List Char}
      (ended : fault = .unexpectedEnd → rest = []) :
      Agrees input (.error fault) (.error (fault.map (position input))) rest

/-- From any cursor before the text, the parser does not get stuck, leaves the cursor between
characters, and agrees with the outcome of a reader. -/
def Follows (input : List Char) {α : Type} (parse : Parse α) (text : List Char)
    (outcome : Except (Fault (List Char)) (α × List Char)) : Prop :=
  ∀ cursor, At input text cursor → ∃ result later rest,
    parse.run.run cursor = some (result, later) ∧ At input rest later ∧
      Agrees input outcome result rest

namespace Follows

variable {input text rest : List Char} {α β : Type}

theorem pure (x : α) : Follows input (Pure.pure x) text (.ok (x, text)) :=
  fun cursor here => ⟨_, cursor, text, rfl, here, .read x text⟩

/-- **One parser after another** follows one reader after another. -/
theorem bind {parse : Parse α} {outcome : Except (Fault (List Char)) (α × List Char)}
    (first : Follows input parse text outcome) {next : α → Parse β}
    {further : α × List Char → Except (Fault (List Char)) (β × List Char)}
    (later : ∀ x rest, outcome = .ok (x, rest) → Follows input (next x) rest (further (x, rest))) :
    Follows input (parse >>= next) text (outcome >>= further) := by
  intro cursor here
  obtain ⟨result, moved, rest, run, there, agrees⟩ := first cursor here
  cases agrees with
  | read x rest =>
    obtain ⟨result, last, left, run', there', agrees⟩ := later x rest rfl moved there
    refine ⟨result, last, left, ?_, there', agrees⟩
    rw [ExceptT.run_bind, StateT.run_bind, run]
    exact run'
  | @failed fault rest ended =>
    refine ⟨_, moved, rest, ?_, there, .failed ended⟩
    rw [ExceptT.run_bind, StateT.run_bind, run]
    rfl

theorem ok_bind {parse : Parse α} {x : α} (first : Follows input parse text (.ok (x, rest)))
    {next : α → Parse β} {outcome : Except (Fault (List Char)) (β × List Char)}
    (later : Follows input (next x) rest outcome) :
    Follows input (parse >>= next) text outcome := by
  have whole : Follows input (parse >>= next) text
      ((.ok (x, rest) : Except (Fault (List Char)) (α × List Char)) >>= fun _ => outcome) := by
    refine first.bind fun y left same => ?_
    cases same
    exact later
  exact whole

theorem error_bind {parse : Parse α} {fault : Fault (List Char)}
    (first : Follows input parse text (.error fault)) {next : α → Parse β} :
    Follows input (parse >>= next) text (.error fault) := by
  have whole : Follows input (parse >>= next) text
      ((.error fault : Except (Fault (List Char)) (α × List Char)) >>= fun _ => .error fault) :=
    first.bind nofun
  exact whole

/-- What is made of a result without parsing further. -/
theorem map {parse : Parse α} {outcome : Except (Fault (List Char)) (α × List Char)}
    (first : Follows input parse text outcome) (f : α → β) :
    Follows input (parse >>= fun x => Pure.pure (f x)) text
      ((fun (x, rest) => (f x, rest)) <$> outcome) := by
  cases outcome with
  | error fault => exact first.error_bind
  | ok read => exact first.ok_bind (.pure (f read.1))

/-- A fault that is met at the cursor has its place. -/
theorem throw (fault : Fault (List Char)) (ended : fault = .unexpectedEnd → text = []) :
    Follows input (throw (fault.map (position input)) : Parse α) text (.error fault) :=
  fun cursor at_text => ⟨_, cursor, text, rfl, at_text, .failed ended⟩

end Follows

theorem At.place_eq {input text : List Char} {cursor : Cursor} (at_text : At input text cursor) :
    cursor.place = position input text := by
  obtain ⟨front, rfl, size⟩ := at_text.before
  rw [position_append, size]

theorem At.from?_eq {input text : List Char} {cursor : Cursor} (at_text : At input text cursor) :
    Text.from? input cursor.place = some text := by
  obtain ⟨front, rfl, size⟩ := at_text.before
  rw [← size, Text.from?_append]

/-! ## Steps of the parser -/

section Steps

variable {input text : List Char}

theorem here_follows : Follows input here text (.ok (position input text, text)) := by
  intro cursor at_text
  rw [← at_text.place_eq]
  exact ⟨_, cursor, text, rfl, at_text, .read _ _⟩

theorem remaining_follows : Follows input (remaining input) text (.ok (text, text)) := by
  intro cursor at_text
  refine ⟨_, cursor, text, ?_, at_text, .read text text⟩
  change (Except.ok <$> Text.from? input cursor.place).bind (fun part => some (part, cursor)) = _
  rw [at_text.from?_eq]
  rfl

theorem slice_follows {part rest : List Char} (split : text = part ++ rest) :
    Follows input (slice input (position input text) (Text.utf8Size part)) text
      (.ok (part, text)) := by
  intro cursor at_text
  refine ⟨_, cursor, text, ?_, at_text, .read part text⟩
  have upTo : Text.upTo? text (Text.utf8Size part) = some part := by
    rw [split, Text.upTo?_append]
  have cut_from := at_text.from?_eq
  rw [at_text.place_eq] at cut_from
  unfold slice cut
  rw [cut_from]
  change (Except.ok <$> Text.upTo? text _).bind (fun part => some (part, cursor)) = _
  rw [upTo]
  rfl

theorem advance_follows (part rest : List Char) :
    Follows input (advance (Text.utf8Size part)) (part ++ rest) (.ok ((), rest)) := by
  intro cursor at_text
  refine ⟨_, _, rest, rfl, ⟨?_, at_text.isBoundary⟩, .read () rest⟩
  obtain ⟨front, split, size⟩ := at_text.before
  refine ⟨front ++ part, by rw [split, List.append_assoc], ?_⟩
  rw [Text.utf8Size_append, size]

theorem skipBlanks_follows :
    Follows input (skipBlanks input) text (.ok ((), Text.trimStart text)) := by
  refine remaining_follows.ok_bind ?_
  obtain ⟨blanks, -, split⟩ := Text.exists_blanks text
  have size := position_append blanks (Text.trimStart text)
  rw [← split] at size
  change Follows input (advance (position text (Text.trimStart text))) text _
  have moved := @advance_follows input blanks (Text.trimStart text)
  rw [← split] at moved
  rw [size]
  exact moved

theorem eat_of_some {token rest : List Char} (found : Text.after? token text = some rest) :
    Follows input (eat input token) text (.ok (true, rest)) := by
  refine remaining_follows.ok_bind ?_
  rw [found]
  obtain rfl := Text.after?_eq_some_iff.1 found
  exact (advance_follows token rest).ok_bind (.pure true)

theorem eat_of_none {token : List Char} (missing : Text.after? token text = none) :
    Follows input (eat input token) text (.ok (false, text)) := by
  refine remaining_follows.ok_bind ?_
  rw [missing]
  exact .pure false

/-- The operator, if the text starts with it, and the text after it. -/
def read? (text : List Char) (operator : Operator) : Option (Operator × List Char) :=
  (operator, ·) <$> Text.after? operator.symbol text

theorem findSome?_read?_eq_none_iff {operators : List Operator} {text : List Char} :
    operators.findSome? (read? text) = none ↔
      ∀ operator ∈ operators, ∀ rest, text ≠ operator.symbol ++ rest := by
  rw [List.findSome?_eq_none_iff]
  exact forall₂_congr fun operator _ =>
    Option.map_eq_none_iff.trans Text.after?_eq_none_iff

/-- **An operator of a chain is the first one in the order of the attempts.** -/
theorem findSome?_attempts (kind : Chain) (text : List Char) :
    kind.attempts.findSome? (read? text) = kind.operator? text := by
  cases kind with
  | sum =>
    dsimp only [Chain.attempts, Chain.operator?]
    unfold sumOperator?
    split
    · rfl
    · rfl
    · next no_plus no_minus =>
      refine findSome?_read?_eq_none_iff.2 fun operator fits => ?_
      simp only [List.mem_cons, List.not_mem_nil, or_false] at fits
      rcases fits with rfl | rfl
      · exact no_plus
      · exact no_minus
  | product =>
    dsimp only [Chain.attempts, Chain.operator?]
    unfold productOperator?
    split
    · rfl
    · rfl
    · next rest apart =>
      have missing : Text.after? Operator.floorDivide.symbol ('/' :: rest) = none :=
        Text.after?_eq_none_iff.2 fun more same => apart more (List.cons.inj same).2
      rw [List.findSome?_cons, read?, missing]
      rfl
    · rfl
    · next floor asterisk slash percent =>
      refine findSome?_read?_eq_none_iff.2 fun operator fits => ?_
      simp only [List.mem_cons, List.not_mem_nil, or_false] at fits
      rcases fits with rfl | rfl | rfl | rfl
      · exact floor
      · exact asterisk
      · exact slash
      · exact percent

theorem eatFirst_of_some {operators : List Operator} {operator : Operator} {rest : List Char}
    (found : operators.findSome? (read? text) = some (operator, rest)) :
    Follows input (eatFirst input operators) text (.ok (some operator, rest)) := by
  induction operators with
  | nil => cases found
  | cons first operators ih =>
    unfold eatFirst
    rw [List.findSome?_cons] at found
    cases here : Text.after? first.symbol text with
    | none =>
      rw [read?, here] at found
      exact (eat_of_none here).ok_bind (ih found)
    | some others =>
      rw [read?, here] at found
      cases found
      exact (eat_of_some here).ok_bind (.pure _)

theorem eatFirst_of_none {operators : List Operator}
    (missing : operators.findSome? (read? text) = none) :
    Follows input (eatFirst input operators) text (.ok (none, text)) := by
  induction operators with
  | nil => exact .pure none
  | cons first operators ih =>
    obtain ⟨here, later⟩ := List.forall_mem_cons.1 (findSome?_read?_eq_none_iff.1 missing)
    exact (eat_of_none (Text.after?_eq_none_iff.2 here)).ok_bind
      (ih (findSome?_read?_eq_none_iff.2 later))

/-- After an operator has been applied, if it can be. -/
theorem apply_bind (operator : Operator) (left right : Float) {α : Type} {next : Float → Parse α}
    {further : Float → Except (Fault (List Char)) (α × List Char)}
    (later : ∀ x, Follows input (next x) text (further x)) :
    Follows input (ofExcept (operator.apply left right) >>= next) text
      (operator.apply left right >>= further) := by
  rw [Operator.apply_eq, Operator.apply_eq]
  unfold settle
  cases (operator.division right).find? Division.byZero with
  | none => exact (Follows.pure _).ok_bind (later _)
  | some division =>
    have thrown : Follows input (throw (division.fault.map (position input)) : Parse Float) text
        (.error division.fault) := .throw _ fun ended => by
      have syntactic := @Division.isSyntactic_fault (List Char) division
      rw [ended] at syntactic
      cases syntactic
    rw [division.map_fault] at thrown
    exact thrown.error_bind

end Steps

/-! ## The levels of the grammar -/

section Levels

variable {input : List Char}

theorem literal_follows (text : List Char) :
    Follows input (do
      let literal ← slice input (position input text) (Text.utf8Size (text.takeWhile isPart))
      advance (Text.utf8Size (text.takeWhile isPart))
      match Decimal.unsigned? literal with
      | some x => return x
      | none => throw (.invalidNumber (String.ofList literal) (position input text)))
      text (literal text) := by
  have moved := @advance_follows input (text.takeWhile isPart) (text.dropWhile isPart)
  rw [List.takeWhile_append_dropWhile] at moved
  refine (slice_follows List.takeWhile_append_dropWhile.symm).ok_bind (moved.ok_bind ?_)
  cases reads : Decimal.unsigned? (text.takeWhile isPart) with
  | some x =>
    rw [literal_eq_ok reads]
    exact .pure x
  | none =>
    rw [literal_eq_error reads]
    exact Follows.throw (.invalidNumber _ text) (by simp)

/-- Operands are parsed as they are read, if sums are in all shorter texts. -/
theorem parseOperand_follows {inner : Reader} {sums : Parse Float} {text : List Char}
    (inside : ∀ rest : List Char, rest.length < text.length →
      Follows input sums rest (inner rest)) :
    Follows input (parseOperand input sums) text (operand inner text) := by
  obtain ⟨blanks, blank, split⟩ := Text.exists_blanks text
  refine skipBlanks_follows.ok_bind (here_follows.ok_bind (remaining_follows.ok_bind ?_))
  cases trimmed : Text.trimStart text with
  | nil =>
    rw [trimmed, List.append_nil] at split
    rw [split, operand_ended inner blank]
    exact Follows.throw .unexpectedEnd fun _ => rfl
  | cons c rest =>
    rw [trimmed] at split
    have shorter := length_lt_of_eq_append_cons split
    by_cases parenthesis : c = '('
    · subst parenthesis
      rw [split, operand_parenthesis inner blank]
      refine (advance_follows ['('] rest).ok_bind ((inside rest shorter).bind fun x rest _ => ?_)
      refine skipBlanks_follows.ok_bind ?_
      dsimp only
      split
      · next closed trimmed =>
        rw [trimmed]
        exact (eat_of_some (by rfl)).ok_bind (.pure x)
      · next others unclosed =>
        refine (eat_of_none (Text.after?_eq_none_iff.2 unclosed)).ok_bind ?_
        exact here_follows.ok_bind (Follows.throw (.missingParenthesis _) (by simp))
    · split
      · next same => cases same
      · next same =>
        cases same
        exact absurd rfl parenthesis
      · next same =>
        cases same
        by_cases part : isPart c = true
        · rw [if_pos part, split, operand_number inner blank part]
          exact literal_follows (c :: rest)
        · rw [if_neg part, split, operand_character inner blank (Text.head_trimStart trimmed)
            parenthesis (Bool.eq_false_iff.2 part)]
          exact Follows.throw (.unexpectedCharacter c (c :: rest)) (by simp)

/-- Signs are parsed as they are read, whatever the bounds are, if they are enough. -/
theorem parseSigned_follows {inner : Reader} {operands : Parse Float} {longest : Nat}
    (follows : ∀ text : List Char, text.length ≤ longest →
      Follows input operands text (operand inner text))
    {fuel bound : Nat} {text : List Char} (enough : text.length < fuel)
    (also : text.length < bound) (bounded : text.length ≤ longest) :
    Follows input (parseSigned input operands bound) text (signed (operand inner) fuel text) := by
  induction fuel generalizing bound text with
  | zero => exact absurd enough (Nat.not_lt_zero _)
  | succ fuel ih =>
    obtain ⟨bound, rfl⟩ := Nat.exists_eq_add_one.2 (Nat.zero_lt_of_lt also)
    refine skipBlanks_follows.ok_bind ?_
    cases plus : Text.after? ['+'] (Text.trimStart text) with
    | some rest =>
      have trimmed : Text.trimStart text = Sign.plus.symbol :: rest :=
        Text.after?_eq_some_iff.1 plus
      obtain ⟨shorter, read⟩ := signed_of_trimmed (operand inner) fuel trimmed
      have same : signed (operand inner) (fuel + 1) text = signed (operand inner) fuel rest :=
        read.trans (id_map _)
      rw [same]
      exact (eat_of_some plus).ok_bind (ih (by omega) (by omega) (by omega))
    | none =>
      refine (eat_of_none plus).ok_bind ?_
      cases minus : Text.after? ['-'] (Text.trimStart text) with
      | some rest =>
        have trimmed : Text.trimStart text = Sign.minus.symbol :: rest :=
          Text.after?_eq_some_iff.1 minus
        obtain ⟨shorter, read⟩ := signed_of_trimmed (operand inner) fuel trimmed
        rw [read]
        exact (eat_of_some minus).ok_bind ((ih (by omega) (by omega) (by omega)).map _)
      | none =>
        refine (eat_of_none minus).ok_bind ?_
        have unsigned : Unsigned text := fun sign rest trimmed => by
          cases sign with
          | plus => exact Text.after?_eq_none_iff.1 plus rest trimmed
          | minus => exact Text.after?_eq_none_iff.1 minus rest trimmed
        have shorter := (@List.dropWhile_suffix _ text Text.isBlank).length_le
        rw [signed_unsigned inner fuel unsigned, ← operand_trimStart]
        exact follows _ (Nat.le_trans shorter bounded)

theorem parsePower_follows {base : Reader} {bases : Parse Float} {longest : Nat}
    (follows : ∀ text : List Char, text.length ≤ longest → Follows input bases text (base text))
    (reads : ∀ text : List Char, text.length ≤ longest → ReadsAt .signed base text)
    {fuel bound : Nat} {text : List Char} (enough : text.length < fuel)
    (also : text.length < bound) (bounded : text.length ≤ longest) :
    Follows input (parsePower input bases bound) text (power base fuel text) := by
  induction fuel generalizing bound text with
  | zero => exact absurd enough (Nat.not_lt_zero _)
  | succ fuel ih =>
    obtain ⟨bound, rfl⟩ := Nat.exists_eq_add_one.2 (Nat.zero_lt_of_lt also)
    have first := follows text bounded
    cases outcome : base text with
    | error fault =>
      rw [outcome] at first
      rw [power_error outcome]
      exact first.error_bind
    | ok read =>
      obtain ⟨x, rest⟩ := read
      have within := (reads text bounded).length_lt outcome
      rw [outcome] at first
      refine first.ok_bind (skipBlanks_follows.ok_bind ?_)
      cases after : Text.after? Operator.power.symbol (Text.trimStart rest) with
      | none =>
        rw [power_plain outcome after]
        exact (eat_of_none after).ok_bind (.pure x)
      | some exponent =>
        have raised := Text.after?_eq_some_iff.1 after
        have shorter := Operator.power.length_lt raised
        rw [power_raised outcome raised]
        exact (eat_of_some after).ok_bind ((ih (by omega) (by omega) (by omega)).map _)

section Chain

variable {kind : Chain} {operand : Reader} {operands : Parse Float} {longest : Nat}
  (follows : ∀ text : List Char, text.length ≤ longest →
    Follows input operands text (operand text))
  (reads : ∀ text : List Char, text.length ≤ longest → ReadsAt kind.operand operand text)
include follows reads

theorem parseChainFrom_follows {fuel bound : Nat} {text : List Char} (enough : text.length < fuel)
    (also : text.length < bound) (bounded : text.length ≤ longest) (left : Float) :
    Follows input (parseChainFrom input kind operands bound left) text
      (chainFrom kind.operator? operand fuel left text) := by
  induction fuel generalizing bound text left with
  | zero => exact absurd enough (Nat.not_lt_zero _)
  | succ fuel ih =>
    obtain ⟨bound, rfl⟩ := Nat.exists_eq_add_one.2 (Nat.zero_lt_of_lt also)
    refine skipBlanks_follows.ok_bind ?_
    cases found : kind.operator? (Text.trimStart text) with
    | none =>
      rw [chainFrom_end found]
      exact (eatFirst_of_none ((findSome?_attempts kind _).trans found)).ok_bind (.pure left)
    | some found' =>
      obtain ⟨operator, rest⟩ := found'
      have shorter := operator.length_lt (Chain.operator?_eq_some found).2
      rw [chainFrom_operator found]
      refine (eatFirst_of_some ((findSome?_attempts kind _).trans found)).ok_bind ?_
      refine (follows rest (by omega)).bind fun right more outcome => ?_
      have within := (reads rest (by omega)).length_lt outcome
      exact apply_bind operator left right fun x => ih (by omega) (by omega) (by omega) x

theorem parseChain_follows {bound : Nat} {text : List Char} (also : text.length < bound)
    (bounded : text.length ≤ longest) :
    Follows input (parseChain input kind operands bound) text
      (chain kind.operator? operand text) := by
  rw [chain]
  refine (follows text bounded).bind fun left rest outcome => ?_
  have within := (reads text bounded).length_lt outcome
  exact parseChainFrom_follows follows reads (Nat.lt_succ_self _) (by omega) (by omega) left

end Chain

/-- Sums are parsed as they are read. The parentheses in a sum hold shorter texts. -/
theorem parseSum_follows {bound nesting depth : Nat} {text : List Char}
    (enough : text.length < depth) (also : text.length < nesting) (bounded : text.length < bound) :
    Follows input (parseSum input bound nesting) text (sum depth text) := by
  induction depth generalizing nesting text with
  | zero => exact absurd enough (Nat.not_lt_zero _)
  | succ depth ih =>
    obtain ⟨nesting, rfl⟩ := Nat.exists_eq_add_one.2 (Nat.zero_lt_of_lt also)
    have inside : ∀ part : List Char, part.length < text.length →
        ReadsAt (.chain .sum) (sum depth) part := fun part shorter => sum_reads (by omega)
    have operands : ∀ part : List Char, part.length ≤ text.length →
        Follows input (parseOperand input (parseSum input bound nesting)) part
          (operand (sum depth) part) := fun part shorter =>
      parseOperand_follows fun rest within => ih (by omega) (by omega) (by omega)
    have bases := fun (part : List Char) (shorter : part.length ≤ text.length) =>
      parseSigned_follows operands (Nat.lt_succ_of_le shorter) (Nat.lt_of_le_of_lt shorter bounded)
        shorter
    have powers := fun (part : List Char) (shorter : part.length ≤ text.length) =>
      parsePower_follows bases (fun _ => bases_read inside) (Nat.lt_succ_of_le shorter)
        (Nat.lt_of_le_of_lt shorter bounded) shorter
    have products := fun (part : List Char) (shorter : part.length ≤ text.length) =>
      @parseChain_follows _ .product _ _ _ powers (fun _ => powers_read inside) _ part
        (Nat.lt_of_le_of_lt shorter bounded) shorter
    exact @parseChain_follows _ .sum _ _ _ products (fun _ => products_read inside) _ text bounded
      (Nat.le_refl _)

end Levels

/-- **The parser follows the reader of whole texts.** -/
theorem parse_follows (input : List Char) :
    Follows input (parse input) input ((·, []) <$> evaluateTrimmed input) := by
  have enough := Nat.lt_succ_self input.length
  have read := @parseSum_follows input _ _ _ _ enough enough enough
  unfold parse evaluateTrimmed
  rw [map_bind]
  refine read.bind fun x rest _ => ?_
  refine skipBlanks_follows.ok_bind (remaining_follows.ok_bind ?_)
  dsimp only
  cases Text.trimStart rest with
  | nil => exact .pure x
  | cons c more =>
    exact here_follows.ok_bind (Follows.throw (.unexpectedCharacter c (c :: more)) (by simp))

end Cursor

end CloudTemplate.Arithmetic

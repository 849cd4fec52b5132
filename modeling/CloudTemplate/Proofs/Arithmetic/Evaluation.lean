import CloudTemplate.Proofs.Arithmetic.Chains
import CloudTemplate.Proofs.Outcome
import CloudTemplate.Rehearsal

/-!
# Evaluating whole texts

A text is evaluated as one expression, which must end where the text does. Evaluation accepts
exactly the grammar (`evaluate_exact`): the value of a text is that of the expression it is a way to
write, if no divisor in it is zero, and otherwise the fault is the first division by zero.

A text that is no expression never has a value. It is rejected for its form (`Rejects`), and a
calculation keeps its call, unless reading the text comes to a division by zero first (`HaltsAt`),
for expressions are evaluated while they are read: `Math.calculate_malformed`. The text
`1 / 0 + Size` is a case in which it does (`Math.not_syntactic_zeroFirst`).
-/

set_option autoImplicit false

namespace CloudTemplate.Arithmetic

/-! ## Whole texts -/

/-- An expression ends where the text does. -/
theorem Level.ends_nil (text : List Char) : (Level.chain .sum).Ends text [] :=
  ⟨⟨⟨fun _ _ _ _ first => (nomatch first), rfl⟩, rfl⟩, rfl⟩

/-- Reading the text as a sum comes to the division, which is one by zero. What is read until then
can be completed to an expression, whatever the rest of the text is. -/
def HaltsAt (text : List Char) (met : Division) : Prop :=
  ∃ tokens front rest, Stops (.chain .sum) tokens met ∧ Spaced tokens front ∧
    text = front ++ rest ∧ Ended front rest

/-- The text is no expression, and no division by zero is met before this is seen: reading breaks
down in it, or it goes on after an expression with what does not belong to it. -/
inductive Rejects : List Char → Fault (List Char) → Prop where
  | broken {text : List Char} {fault : Fault (List Char)}
      (breaks : Breaks (.chain .sum) text fault) : Rejects text fault
  | trailing {expression : Expression (.chain .sum)} {front blanks rest : List Char} {c : Char}
      (written : expression.WrittenAs front) (defined : expression.Defined)
      (blank : Text.Blank blanks) (visible : Text.isBlank c = false)
      (ends : (Level.chain .sum).Ends front (blanks ++ c :: rest)) :
      Rejects (front ++ (blanks ++ c :: rest)) (.unexpectedCharacter c (c :: rest))

theorem Rejects.isSyntactic {text : List Char} {fault : Fault (List Char)}
    (rejects : Rejects text fault) : fault.isSyntactic = true := by
  cases rejects with
  | broken breaks => exact breaks.isSyntactic
  | trailing => rfl

/-- What an evaluation makes of a text, which has no blanks at its end. -/
theorem evaluateTrimmed_cases {text : List Char}
    (trimmed : ∀ body blanks : List Char, Text.Blank blanks →
      text = body ++ blanks → blanks = []) :
    (∃ expression : Expression (.chain .sum), expression.WrittenAs text ∧ expression.Defined ∧
      evaluateTrimmed text = .ok expression.value) ∨
    (∃ met, HaltsAt text met ∧ evaluateTrimmed text = .error met.fault) ∨
    ∃ fault, evaluateTrimmed text = .error fault ∧ Rejects text fault := by
  have explained := (sum_reads (Nat.lt_succ_self text.length)).explained
  unfold evaluateTrimmed
  generalize sum (text.length + 1) text = result at explained
  cases explained with
  | malformed breaks => exact .inr (.inr ⟨_, rfl, .broken breaks⟩)
  | @stopped tokens met stops front rest split spaced ended =>
    exact .inr (.inl ⟨met, ⟨tokens, front, rest, stops, spaced, split, ended⟩, rfl⟩)
  | @read expression front rest split written ends defined =>
    dsimp only [bind, Except.bind]
    rw [Level.trimStart_left]
    obtain ⟨blanks, blank, same⟩ := Text.exists_blanks rest
    cases after : Text.trimStart rest with
    | cons c rest =>
      rw [after] at same
      subst same split
      exact .inr (.inr ⟨_, rfl, .trailing written defined blank (Text.head_trimStart after) ends⟩)
    | nil =>
      rw [after, List.append_nil] at same
      subst same
      rw [trimmed front rest blank split, List.append_nil] at split
      exact .inl ⟨expression, split ▸ written, defined, rfl⟩

/-- The evaluation of a written expression is its result. -/
theorem evaluateTrimmed_of_writtenAs {expression : Expression (.chain .sum)} {text : List Char}
    (written : expression.WrittenAs text) : evaluateTrimmed text = expression.result := by
  have read := (sum_reads (Nat.lt_succ_self text.length)).complete expression
    (List.append_nil text).symm written (Level.ends_nil text)
  rw [evaluateTrimmed, read]
  cases (expression.result : Except (Fault (List Char)) Float) <;> rfl

theorem evaluateTrimmed_of_haltsAt {text : List Char} {met : Division} (halts : HaltsAt text met) :
    evaluateTrimmed text = .error met.fault := by
  obtain ⟨tokens, front, rest, stops, spaced, split, ended⟩ := halts
  have stopped := (sum_reads (Nat.lt_succ_self text.length)).stops split stops spaced ended
  rw [evaluateTrimmed, stopped]
  rfl

theorem evaluateTrimmed_of_rejects {text : List Char} {fault : Fault (List Char)}
    (rejects : Rejects text fault) : evaluateTrimmed text = .error fault := by
  cases rejects with
  | broken breaks =>
    rw [evaluateTrimmed, (sum_reads (Nat.lt_succ_self text.length)).breaks breaks]
    rfl
  | trailing written defined blank visible ends =>
    have read := (sum_reads (Nat.lt_succ_self _)).complete _ rfl written ends
    rw [evaluateTrimmed, read, defined.result_eq]
    dsimp only [Functor.map, Except.map, bind, Except.bind]
    rw [Level.trimStart_left, Text.trimStart_append blank, Text.trimStart_cons _ visible]

/-! ## Places of faults -/

theorem Fault.isSyntactic_map {Place Other : Type} (describe : Place → Other)
    (fault : Fault Place) : (fault.map describe).isSyntactic = fault.isSyntactic := by
  cases fault <;> rfl

theorem Division.map_fault {Place Other : Type} (describe : Place → Other) (division : Division) :
    (division.fault : Fault Place).map describe = division.fault := by
  unfold fault
  split <;> rfl

/-- The outcome of a written expression has no place in it. -/
theorem Expression.mapError_result {Place Other : Type} (describe : Place → Other)
    (expression : Expression (.chain .sum)) :
    (expression.result : Except (Fault Place) Float).mapError (Fault.map describe) =
      expression.result := by
  unfold result settle
  cases expression.divisions.find? Division.byZero with
  | none => rfl
  | some division => exact congrArg Except.error (division.map_fault describe)

theorem evaluate_of_writtenAs {expression : Expression (.chain .sum)} {text : String}
    (written : expression.WrittenAs (Text.trim text.toList)) :
    evaluate text = expression.result := by
  rw [evaluate, evaluateTrimmed_of_writtenAs written]
  exact expression.mapError_result _

/-- **Evaluation accepts exactly the grammar**: a text has a value exactly when it is, apart from
the blanks around it, a way to write an expression with this value in which no divisor is zero. If
there is a divisor that is zero, the first one in the order of evaluation is the fault. -/
theorem evaluate_exact (text : String) :
    (∀ value, evaluate text = .ok value ↔
      ∃ expression : Expression (.chain .sum),
        expression.WrittenAs (Text.trim text.toList) ∧ expression.Defined ∧
          expression.value = value) ∧
    ∀ expression : Expression (.chain .sum), expression.WrittenAs (Text.trim text.toList) →
      ∀ met, expression.divisions.find? Division.byZero = some met →
        evaluate text = .error met.fault := by
  refine ⟨fun value => ⟨fun found => ?_, ?_⟩, fun expression written met first => ?_⟩
  · rcases evaluateTrimmed_cases fun body blanks blank => Text.eq_nil_of_trim_eq_append blank with
      ⟨expression, written, defined, -⟩ | ⟨met, -, failed⟩ | ⟨fault, failed, -⟩
    · refine ⟨expression, written, defined, ?_⟩
      rw [evaluate_of_writtenAs written, defined.result_eq] at found
      exact Except.ok.inj found
    · rw [evaluate, failed] at found
      cases found
    · rw [evaluate, failed] at found
      cases found
  · rintro ⟨expression, written, defined, rfl⟩
    rw [evaluate_of_writtenAs written, defined.result_eq]
  · rw [evaluate_of_writtenAs written, Expression.result, settle, first]

/-- The number 0. -/
def zero : Literal :=
  ⟨['0'], List.forall_mem_singleton.2 rfl, 0.0, rfl⟩

/-- The number 1. -/
def one : Literal :=
  ⟨['1'], List.forall_mem_singleton.2 rfl, 1.0, rfl⟩

/-- The expression `1 % 0 // 0`. -/
def twiceByZero : Expression (.chain .sum) :=
  .single (.append (.append (.single (.plain (.unsigned (.number one)))) .modulo (by decide)
    (.plain (.unsigned (.number zero)))) .floorDivide (by decide)
    (.plain (.unsigned (.number zero))))

/-- The remainder comes first. -/
theorem evaluate_exact_twiceByZero :
    twiceByZero.WrittenAs (Text.trim "1%0//0".toList) ∧
      twiceByZero.divisions.find? Division.byZero = some ⟨.modulo, 0.0⟩ ∧
      evaluate "1%0//0" = .error .moduloByZero :=
  ⟨twiceByZero.writtenAs_flatten, rfl,
    (evaluate_exact "1%0//0").2 twiceByZero twiceByZero.writtenAs_flatten ⟨.modulo, 0.0⟩ rfl⟩

/-! ## Texts that are no expressions -/

/-- Where reading comes to a division by zero, this is the fault, whatever the rest of the text
is. -/
theorem evaluate_of_haltsAt {text : String} {met : Division}
    (halts : HaltsAt (Text.trim text.toList) met) : evaluate text = .error met.fault := by
  rw [evaluate, evaluateTrimmed_of_haltsAt halts]
  exact congrArg Except.error (met.map_fault _)

/-- A text that is no expression, and in which reading comes to no division by zero, fails for its
form. -/
theorem evaluate_malformed {text : String}
    (malformed : ∀ expression : Expression (.chain .sum),
      ¬expression.WrittenAs (Text.trim text.toList))
    (going : ∀ met, ¬HaltsAt (Text.trim text.toList) met) :
    ∃ fault, evaluate text = .error fault ∧ fault.isSyntactic = true := by
  rcases evaluateTrimmed_cases fun body blanks blank => Text.eq_nil_of_trim_eq_append blank with
    ⟨expression, written, -⟩ | ⟨met, halts, -⟩ | ⟨fault, failed, rejects⟩
  · exact absurd written (malformed expression)
  · exact absurd halts (going met)
  · refine ⟨fault.map (position (Text.trim text.toList)), ?_, ?_⟩
    · rw [evaluate, failed]
      rfl
    · rw [Fault.isSyntactic_map, rejects.isSyntactic]

end CloudTemplate.Arithmetic

namespace CloudTemplate.Math

open Arithmetic

/-- What comes of a calculation whose argument is resolved to a text. -/
theorem calculate_resultFrom {State : Type} (handler : Handler State) (call : Invocation)
    {text : String} {state : State}
    (resolved : (handler.resolve call.arguments).resultFrom state = .ok (.string text)) :
    ((calculate call).run handler).resultFrom state =
      match evaluate text with
      | .ok result =>
        if Decimal.isFinite result then .ok (Value.ofNumber result)
        else .error (.nonFinite call.key result)
      | .error .divisionByZero => .error .divisionByZero
      | .error .moduloByZero => .error .moduloByZero
      | .error _ => .ok call.node := by
  unfold calculate Invocation.known
  refine (Attempt.resultFrom_bind _ _ state).trans ?_
  rw [resolved]
  dsimp only
  change ((match evaluate text with
    | .ok result => finite call result
    | .error .divisionByZero => .fail .divisionByZero
    | .error .moduloByZero => .fail .moduloByZero
    | .error _ => Program.noting _ call.node).run handler).resultFrom _ = _
  cases evaluate text with
  | ok result =>
    dsimp only
    unfold finite
    split <;> rfl
  | error fault => cases fault <;> rfl

/-- **A calculation defers on a text that is no expression, unless reading it comes to a division
by zero first.** In the one case the text fails for its form and the call is kept, in the other the
division by zero is the fault and the error. -/
theorem calculate_malformed {text : String}
    (malformed : ∀ expression : Expression (.chain .sum),
      ¬expression.WrittenAs (Text.trim text.toList)) :
    ((∀ met, ¬HaltsAt (Text.trim text.toList) met) →
      (∃ fault, evaluate text = .error fault ∧ fault.isSyntactic = true) ∧
      ∀ {State : Type} (handler : Handler State) (call : Invocation) (state : State),
        (handler.resolve call.arguments).resultFrom state = .ok (.string text) →
        ((calculate call).run handler).resultFrom state = .ok call.node) ∧
    ∀ met, HaltsAt (Text.trim text.toList) met →
      evaluate text = .error met.fault ∧
      ∀ {State : Type} (handler : Handler State) (call : Invocation) (state : State),
        (handler.resolve call.arguments).resultFrom state = .ok (.string text) →
        ((calculate call).run handler).resultFrom state =
          .error (if met.operator = .modulo then .moduloByZero else .divisionByZero) := by
  refine ⟨fun going => ?_, fun met halts => ?_⟩
  · obtain ⟨fault, failed, syntactic⟩ := evaluate_malformed malformed going
    refine ⟨⟨fault, failed, syntactic⟩, fun handler call state resolved => ?_⟩
    rw [calculate_resultFrom handler call resolved, failed]
    cases fault with
    | divisionByZero | moduloByZero => cases syntactic
    | _ => rfl
  · have failed := evaluate_of_haltsAt halts
    refine ⟨failed, fun handler call state resolved => ?_⟩
    rw [calculate_resultFrom handler call resolved, failed, Division.fault]
    by_cases modulo : met.operator = .modulo
    · rw [if_pos modulo, if_pos modulo]
    · rw [if_neg modulo, if_neg modulo]

/-- A text that divides by zero before it names a variable. -/
def zeroFirst : String :=
  "1 / 0 + Size"

theorem zeroFirst_malformed (expression : Expression (.chain .sum)) :
    ¬expression.WrittenAs (Text.trim zeroFirst.toList) :=
  have member : 'S' ∈ Text.trim zeroFirst.toList := by decide
  expression.not_writtenAs_of_mem member (by decide) (by decide)

/-- The division in it is read first. -/
theorem zeroFirst_haltsAt : HaltsAt (Text.trim zeroFirst.toList) ⟨.divide, 0.0⟩ :=
  have stops : Stops (.chain .product) [['1'], ['/'], ['0']] ⟨.divide, 0.0⟩ :=
    @Stops.division .product (.single (.plain (.unsigned (.number one)))) .divide (by decide)
      (.plain (.unsigned (.number zero))) nofun nofun rfl rfl
  have blank : Text.Blank [' '] := List.forall_mem_singleton.2 rfl
  ⟨_, "1 / 0".toList, " + Size".toList, .single stops,
    .cons (List.forall_mem_nil _) (.cons blank (.cons blank .nil)), rfl, ⟨by
      intro c _ _ d first
      cases first
      rfl, rfl⟩⟩

/-- A text that names a variable before it divides by zero. -/
def zeroLast : String :=
  "Size + 1 / 0"

theorem zeroLast_malformed (expression : Expression (.chain .sum)) :
    ¬expression.WrittenAs (Text.trim zeroLast.toList) :=
  have member : 'S' ∈ Text.trim zeroLast.toList := by decide
  expression.not_writtenAs_of_mem member (by decide) (by decide)

/-- The division in it is not read. -/
theorem zeroLast_going (met : Division) : ¬HaltsAt (Text.trim zeroLast.toList) met := by
  intro halts
  have syntactic : ∃ fault, evaluate zeroLast = .error fault ∧ fault.isSyntactic = true :=
    ⟨_, rfl, rfl⟩
  rw [evaluate_of_haltsAt halts] at syntactic
  obtain ⟨fault, failed, syntactic⟩ := syntactic
  cases failed
  rw [met.isSyntactic_fault] at syntactic
  cases syntactic

/-- The calculation of `1 / 0 + Size` fails, and that of `Size + 1 / 0` is kept. -/
theorem calculate_malformed_zeroFirst :
    let call (text : String) : Invocation := ⟨"Fn::Calculate", "Calculate", .string text,
      ⟨Config.standard, [], .null⟩⟩
    ((calculate (call zeroFirst)).run (Rehearsal.handler 0)).resultFrom {} =
        .error .divisionByZero ∧
      ((calculate (call zeroLast)).run (Rehearsal.handler 0)).resultFrom {} =
        .ok (call zeroLast).node :=
  ⟨((calculate_malformed zeroFirst_malformed).2 _ zeroFirst_haltsAt).2 (Rehearsal.handler 0) _ {}
      rfl,
    ((calculate_malformed zeroLast_malformed).1 zeroLast_going).2 (Rehearsal.handler 0) _ {} rfl⟩

/-- A text that is no expression need not fail for its form. -/
theorem not_syntactic_zeroFirst :
    ¬∀ text : String,
      (∀ expression : Expression (.chain .sum), ¬expression.WrittenAs (Text.trim text.toList)) →
        ∃ fault, evaluate text = .error fault ∧ fault.isSyntactic = true := by
  intro claim
  obtain ⟨fault, failed, syntactic⟩ := claim zeroFirst zeroFirst_malformed
  rw [show evaluate zeroFirst = .error .divisionByZero from rfl] at failed
  cases failed
  cases syntactic

end CloudTemplate.Math

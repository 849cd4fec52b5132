import CloudTemplate.Proofs.Answers
import CloudTemplate.Proofs.BuiltIn

/-!
# In which order functions ask

A run of a program is a sequence of requests for values with their answers, and then a result
(`Program.exchanges`). What a function asks for is laid down beforehand. It *declares* some values,
mostly the items of its argument list, and it may *choose* one further value when all of these are
known: a choice takes one of its branches, and `FindInMap` the entry that it has found. A run is in
order (`Orderly`) when it goes through the declared values from the first to the last, and

* ends at the first answer that is an error, with this error;
* ends at the first declared value that is not known yet, and gives back the call;
* ends its requests at an answer that settles the result, which is the business of conjunctions and
  disjunctions alone.

A program cannot see who answers it, so its order is a matter of its form: at each request it goes
on in one of these ways (`Program.Follows`), and every run of such a program is in order
(`Program.Follows.run`). All built-in functions are such programs (`exchanges_orderly`).
-/

set_option autoImplicit false

namespace CloudTemplate

/-- A value that was asked for, and the answer. -/
abbrev Exchange := Value × Except Error Value

/-- The requests for values that a program makes when it is carried out, with their answers. -/
def Program.exchanges {α State : Type} (handler : Handler State) :
    Program α → State → List Exchange
  | .done _, _ => []
  | .fail _, _ => []
  | .resolve value next, state =>
    match (handler.resolve value).run.run state with
    | (.ok answer, later) => (value, .ok answer) :: exchanges handler (next answer) later
    | (.error error, _) => [(value, .error error)]
  | .compile text next, state =>
    let (compiled, later) := (handler.compile text).run state
    exchanges handler (next compiled) later
  | .note line next, state => exchanges handler next ((handler.note line).run state).2

/-! ## Runs in order -/

/-- The run of a call is in order, which declares some values, may choose a further one by the
answers to them, and needs no more of them after an answer that settles its result. -/
structure Orderly (call : Invocation) (settles : Value → Bool)
    (further : List Value → Option Value) (declared : List Value) (exchanges : List Exchange)
    (result : Except Error Value) : Prop where
  /-- It asks for the declared values from the first on, each of them once. With the answers to all
  of them it may ask for the value that they choose. -/
  in_order : exchanges.map Prod.fst <+: declared ∨
    ∃ answers value, further answers = some value ∧
      exchanges.map Prod.fst = declared ++ [value] ∧
      (exchanges.take declared.length).map Prod.snd = answers.map Except.ok
  /-- An error ends it, and is its result. -/
  error_ends : ∀ before value error after,
    exchanges = before ++ (value, .error error) :: after → after = [] ∧ result = .error error
  /-- A declared value that resolves to a call ends it, and its own call is kept. -/
  call_ends : ∀ before value answer after, exchanges = before ++ (value, .ok answer) :: after →
    before.length < declared.length → call.isCall answer = true →
    after = [] ∧ result = .ok call.node
  /-- Nothing is asked for after an answer that settles the result. -/
  settled_ends : ∀ before value answer after, exchanges = before ++ (value, .ok answer) :: after →
    before.length < declared.length → settles answer = true → after = []
  /-- It has no result before all declared values are known, unless an answer was a call or has
  settled the result. -/
  complete : ∀ value, result = .ok value → declared <+: exchanges.map Prod.fst ∨
    ∃ exchange ∈ exchanges, ∃ answer, exchange.2 = .ok answer ∧
      (call.isCall answer = true ∨ settles answer = true)

namespace Orderly

variable {call : Invocation} {settles : Value → Bool} {further : List Value → Option Value}
  {declared : List Value}

/-- A run that asks for nothing is in order, unless it has a result too early. -/
theorem nothing {result : Except Error Value}
    (early : ∀ value, result = .ok value → declared = []) :
    Orderly call settles further declared [] result where
  in_order := .inl List.nil_prefix
  error_ends := fun before _ _ _ split => by cases before <;> cases split
  call_ends := fun before _ _ _ split => by cases before <;> cases split
  settled_ends := fun before _ _ _ split => by cases before <;> cases split
  complete := fun value found => .inl (early value found ▸ List.nil_prefix)

/-- The value that is chosen comes last, whatever it resolves to. -/
theorem chosen {value : Value} (choice : further [] = some value) (answer : Except Error Value) :
    Orderly call settles further [] [(value, answer)] answer where
  in_order := .inr ⟨[], value, choice, rfl, rfl⟩
  error_ends := by
    intro before asked error after split
    cases before with
    | nil =>
      cases split
      exact ⟨rfl, rfl⟩
    | cons _ before => cases before <;> cases split
  call_ends := fun _ _ _ _ _ within => absurd within (Nat.not_lt_zero _)
  settled_ends := fun _ _ _ _ _ within => absurd within (Nat.not_lt_zero _)
  complete := fun _ _ => .inl List.nil_prefix

/-- An error ends the run. -/
theorem error (value : Value) (met : Error) :
    Orderly call settles further (value :: declared) [(value, .error met)] (.error met) where
  in_order := .inl (List.prefix_append [value] declared)
  error_ends := by
    intro before asked error after split
    cases before with
    | nil =>
      cases split
      exact ⟨rfl, rfl⟩
    | cons _ before => cases before <;> cases split
  call_ends := by
    intro before asked answer after split
    cases before with
    | nil => cases split
    | cons _ before => cases before <;> cases split
  settled_ends := by
    intro before asked answer after split
    cases before with
    | nil => cases split
    | cons _ before => cases before <;> cases split
  complete := nofun

/-- A declared value that is not known, or that settles the result, may end the run. -/
theorem last {value answer : Value} {result : Except Error Value}
    (reason : call.isCall answer = true ∨ settles answer = true)
    (kept : call.isCall answer = true → result = .ok call.node) :
    Orderly call settles further (value :: declared) [(value, .ok answer)] result where
  in_order := .inl (List.prefix_append [value] declared)
  error_ends := by
    intro before asked error after split
    cases before with
    | nil => cases split
    | cons _ before => cases before <;> cases split
  call_ends := by
    intro before asked met after split _ is_call
    cases before with
    | nil =>
      cases split
      exact ⟨rfl, kept is_call⟩
    | cons _ before => cases before <;> cases split
  settled_ends := by
    intro before asked met after split
    cases before with
    | nil =>
      cases split
      exact fun _ _ => rfl
    | cons _ before => cases before <;> cases split
  complete := fun _ _ => .inr ⟨_, List.mem_singleton_self _, answer, rfl, reason⟩

/-- After a declared value that is known comes the rest of the run. -/
theorem known {value answer : Value} {exchanges : List Exchange} {result : Except Error Value}
    (data : call.isCall answer = false) (open_ : settles answer = false)
    (rest : Orderly call settles (fun answers => further (answer :: answers)) declared exchanges
      result) :
    Orderly call settles further (value :: declared) ((value, .ok answer) :: exchanges) result where
  in_order := by
    rcases rest.in_order with asked | ⟨answers, choice, chosen, asked, given⟩
    · exact .inl (List.cons_prefix_cons.2 ⟨rfl, asked⟩)
    · refine .inr ⟨answer :: answers, choice, chosen, ?_, ?_⟩
      · exact congrArg (value :: ·) asked
      · exact congrArg (Except.ok answer :: ·) given
  error_ends := by
    intro before asked error after split
    cases before with
    | nil => cases split
    | cons first before =>
      cases split
      exact rest.error_ends before asked error after rfl
  call_ends := by
    intro before asked met after split within is_call
    cases before with
    | nil =>
      cases split
      rw [data] at is_call
      cases is_call
    | cons first before =>
      cases split
      exact rest.call_ends before asked met after rfl (Nat.lt_of_succ_lt_succ within) is_call
  settled_ends := by
    intro before asked met after split within settled
    cases before with
    | nil =>
      cases split
      rw [open_] at settled
      cases settled
    | cons first before =>
      cases split
      exact rest.settled_ends before asked met after rfl (Nat.lt_of_succ_lt_succ within) settled
  complete := by
    intro found here
    rcases rest.complete found here with all | ⟨exchange, listed, reason⟩
    · exact .inl (List.cons_prefix_cons.2 ⟨rfl, all⟩)
    · exact .inr ⟨exchange, List.mem_cons_of_mem _ listed, reason⟩

end Orderly

/-! ## Programs that ask in order -/

namespace Program

variable {α β State : Type}

/-- The program asks for no value. -/
def Silent : Program α → Prop
  | .done _ => True
  | .fail _ => True
  | .resolve _ _ => False
  | .compile _ next => ∀ compiled, Silent (next compiled)
  | .note _ next => Silent next

/-- The program goes through the declared values in their order. At an answer that is a call it
keeps its own, and after an answer that settles the result it asks no more. When there is nothing
left of the declared values it may ask for the value that is chosen by the answers, and ends with
what this resolves to. -/
def Follows (call : Invocation) (settles : Value → Bool) :
    (further : List Value → Option Value) → (declared : List Value) → Program Value → Prop
  | _, declared, .done _ => declared = []
  | _, _, .fail _ => True
  | further, declared, .resolve value next =>
    match declared with
    | [] => further [] = some value ∧ ∀ answer, next answer = .done answer
    | first :: others => value = first ∧ ∀ answer,
      if call.isCall answer then next answer = call.keep
      else if settles answer then Silent (next answer)
      else Follows call settles (fun answers => further (answer :: answers)) others (next answer)
  | further, declared, .compile _ next =>
    ∀ compiled, Follows call settles further declared (next compiled)
  | further, declared, .note _ next => Follows call settles further declared next

namespace Silent

theorem bind {program : Program α} {next : α → Program β} (first : program.Silent)
    (rest : ∀ result, (next result).Silent) : (program >>= next).Silent := by
  induction program with
  | done result => exact rest result
  | fail error => trivial
  | resolve value further ih => exact first.elim
  | compile text further ih => exact fun compiled => ih compiled (first compiled)
  | note line further ih => exact ih first

theorem exchanges_eq_nil {program : Program α} (silent : program.Silent) (handler : Handler State)
    (state : State) : program.exchanges handler state = [] := by
  induction program generalizing state with
  | done result => rfl
  | fail error => rfl
  | resolve value next ih => exact silent.elim
  | compile text next ih => exact ih _ (silent _) _
  | note line next ih => exact ih silent _

end Silent

namespace Follows

variable {call : Invocation} {settles : Value → Bool} {further : List Value → Option Value}
  {declared : List Value}

/-- What asks for nothing may stand in front. -/
theorem bind {first : Program α} {next : α → Program Value} (silent : first.Silent)
    (rest : ∀ result, (next result).Follows call settles further declared) :
    (first >>= next).Follows call settles further declared := by
  induction first with
  | done result => exact rest result
  | fail error => trivial
  | resolve value later ih => exact silent.elim
  | compile text later ih => exact fun compiled => ih compiled (silent compiled)
  | note line later ih => exact ih silent

/-- When nothing is left of the declared values, the program may end without asking. -/
theorem silent {program : Program Value} (silent : program.Silent) :
    program.Follows call settles further [] := by
  induction program with
  | done result => rfl
  | fail error => trivial
  | resolve value next ih => exact silent.elim
  | compile text next ih => exact fun compiled => ih compiled (silent compiled)
  | note line next ih => exact ih silent

/-- The value that the answers choose may be asked for last. -/
theorem chosen {value : Value} (choice : further [] = some value) :
    (Program.resolved value).Follows call settles further [] :=
  ⟨choice, fun _ => rfl⟩

/-- A value that is asked for and has to be known is the next of the declared ones. -/
theorem known {value : Value} {next : Value → Program Value}
    (rest : ∀ answer, call.isCall answer = false →
      if settles answer then (next answer).Silent
      else (next answer).Follows call settles (fun answers => further (answer :: answers))
        declared) :
    (call.known value next).Follows call settles further (value :: declared) := by
  refine ⟨rfl, fun answer => ?_⟩
  change if call.isCall answer then
      (if call.isCall answer then call.keep else next answer) = call.keep
    else if settles answer then Silent (if call.isCall answer then call.keep else next answer)
    else Follows call settles _ declared (if call.isCall answer then call.keep else next answer)
  cases data : call.isCall answer with
  | true => rfl
  | false => exact rest answer data

/-- **Every run of a program that asks in order is in order.** -/
theorem run {program : Program Value}
    (follows : program.Follows call settles further declared) (handler : Handler State)
    (state : State) :
    Orderly call settles further declared (program.exchanges handler state)
      ((program.run handler).resultFrom state) := by
  induction program generalizing further declared state with
  | done result => exact .nothing fun _ _ => follows
  | fail error => exact .nothing nofun
  | compile text next ih => exact ih _ (follows _) _
  | note line next ih => exact ih follows _
  | resolve value next ih =>
    unfold Program.run exchanges
    rw [Attempt.resultFrom_bind]
    unfold Attempt.resultFrom at ih ⊢
    generalize (handler.resolve value).run.run state = answered
    obtain ⟨answer, later⟩ := answered
    cases declared with
    | nil =>
      obtain ⟨choice, ends⟩ := follows
      cases answer with
      | error error => exact .chosen choice _
      | ok answer =>
        dsimp only
        rw [ends answer]
        exact .chosen choice _
    | cons first others =>
      obtain ⟨rfl, goes_on⟩ := follows
      cases answer with
      | error error => exact .error value error
      | ok answer =>
        specialize goes_on answer
        dsimp only
        cases data : call.isCall answer with
        | true =>
          rw [data, if_pos rfl] at goes_on
          rw [goes_on]
          exact .last (.inl data) fun _ => rfl
        | false =>
          rw [data, if_neg Bool.false_ne_true] at goes_on
          cases settled : settles answer with
          | true =>
            rw [settled, if_pos rfl] at goes_on
            rw [goes_on.exchanges_eq_nil]
            refine .last (.inr settled) fun is_call => ?_
            rw [data] at is_call
            cases is_call
          | false =>
            rw [settled, if_neg Bool.false_ne_true] at goes_on
            exact .known data settled (ih answer goes_on later)

end Follows
end Program
end CloudTemplate

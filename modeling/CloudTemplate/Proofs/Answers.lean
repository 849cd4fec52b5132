import CloudTemplate.Function.Invocation
import CloudTemplate.Proofs.Outcome

/-!
# What programs make of their answers

Whoever carries a program out decides what the values resolve to for which it asks, and may decide
it anew each time. The answers that the program is given on its way are recorded in their order
(`Program.answers`). A program *relates* its answers to its result when they stand in a given
relation however it is answered (`Program.Relates`). This is a statement about the program alone,
and it holds of every run (`Program.Relates.run`).
-/

set_option autoImplicit false

namespace CloudTemplate

namespace Program

variable {α β State : Type}

/-- The values that the program is given when it is carried out, up to its end or its failure. -/
def answers (handler : Handler State) : Program α → State → List Value
  | .done _, _ => []
  | .fail _, _ => []
  | .resolve value next, state =>
    match (handler.resolve value).run.run state with
    | (.ok resolved, later) => resolved :: answers handler (next resolved) later
    | (.error _, _) => []
  | .compile text next, state =>
    let (compiled, later) := (handler.compile text).run state
    answers handler (next compiled) later
  | .note line next, state => answers handler next ((handler.note line).run state).2

/-- However the program is answered, its answers and its result are related, unless it fails. -/
def Relates (related : List Value → α → Prop) : Program α → Prop
  | .done result => related [] result
  | .fail _ => True
  | .resolve _ next =>
    ∀ answer, Relates (fun answers => related (answer :: answers)) (next answer)
  | .compile _ next => ∀ compiled, Relates related (next compiled)
  | .note _ next => Relates related next

namespace Relates

/-- **What a program relates is related in every run.** -/
theorem run {program : Program α} {related : List Value → α → Prop}
    (relates : program.Relates related) (handler : Handler State) {state : State} {result : α}
    (found : (program.run handler).resultFrom state = .ok result) :
    related (program.answers handler state) result := by
  induction program generalizing state related with
  | done value =>
    cases found
    exact relates
  | fail error => cases found
  | resolve value next ih =>
    unfold Program.run at found
    unfold answers
    rw [Attempt.resultFrom_bind] at found
    unfold Attempt.resultFrom at found ih
    generalize (handler.resolve value).run.run state = answered at found ⊢
    obtain ⟨resolved, later⟩ := answered
    cases resolved with
    | error error => cases found
    | ok resolved => exact ih resolved (relates resolved) found
  | compile text next ih => exact ih _ (relates _) found
  | note line next ih => exact ih relates found

theorem bind {program : Program α} {next : α → Program β} {mid : List Value → α → Prop}
    {related : List Value → β → Prop} (first : program.Relates mid)
    (rest : ∀ answers result, mid answers result →
      (next result).Relates fun further => related (answers ++ further)) :
    (program >>= next).Relates related := by
  induction program generalizing mid related with
  | done result => exact rest [] result first
  | fail error => trivial
  | resolve value further ih =>
    exact fun answer => ih answer (first answer) fun answers result here =>
      rest (answer :: answers) result here
  | compile text further ih => exact fun compiled => ih compiled (first compiled) rest
  | note line further ih => exact ih first rest

end Relates

/-- The program asks for no values. -/
def AsksNothing (program : Program α) : Prop :=
  program.Relates fun answers _ => answers = []

/-- What asks for nothing adds no answers. -/
theorem AsksNothing.bind {program : Program α} (nothing : program.AsksNothing)
    {next : α → Program β} {related : List Value → β → Prop}
    (rest : ∀ result, (next result).Relates related) : (program >>= next).Relates related := by
  refine Relates.bind nothing fun answers result none => ?_
  rw [none]
  exact rest result

end Program

end CloudTemplate

import CloudTemplate.Error.Basic
import CloudTemplate.Pattern.Basic

/-!
# What functions do

A function computes its result from its arguments, but it cannot resolve them by itself. It is a
program that ends with a result or an error and may make three requests before: to have a value
resolved, to have a pattern compiled, and to have a line noted. How each program goes on may
depend on what it was given.

Who answers the requests is left open. A `Handler` answers them in any state, and `Program.run`
carries a program out with it. Carrying out one program and then another is carrying out their
combination (`run_bind`).
-/

set_option autoImplicit false

namespace CloudTemplate

/-- A computation that makes requests. -/
inductive Program (α : Type) where
  | done (result : α)
  | fail (error : Error)
  /-- Asks for the resolution of a value. -/
  | resolve (value : Value) (next : Value → Program α)
  /-- Asks for the pattern that a text describes. -/
  | compile (text : String) (next : Except Pattern.Fault Pattern → Program α)
  /-- Asks to note a line. -/
  | note (line : String) (next : Program α)

/-- A stateful computation that may fail. What happened to the state before a failure stays. -/
abbrev Attempt (State : Type) (α : Type) := ExceptT Error (StateM State) α

/-- The result or the error, without touching the state. -/
def Attempt.ofExcept {State α : Type} (result : Except Error α) : Attempt State α :=
  ExceptT.mk (pure result)

/-- Answers to the requests of a program. -/
structure Handler (State : Type) where
  resolve : Value → Attempt State Value
  compile : String → StateM State (Except Pattern.Fault Pattern)
  note : String → StateM State Unit

namespace Program

variable {α β : Type}

/-- Goes on with another program at the end. -/
def bind : Program α → (α → Program β) → Program β
  | .done result, next => next result
  | .fail error, _ => .fail error
  | .resolve value rest, next => .resolve value fun resolved => (rest resolved).bind next
  | .compile text rest, next => .compile text fun compiled => (rest compiled).bind next
  | .note line rest, next => .note line (rest.bind next)

instance : Monad Program where
  pure := .done
  bind := bind

/-- Ends with the result or the error. -/
def ofExcept : Except Error α → Program α
  | .ok result => .done result
  | .error error => .fail error

/-- The resolution of a value. -/
def resolved (value : Value) : Program Value :=
  .resolve value .done

/-- The pattern that a text describes; the function `name` fails if there is none. -/
def compiled (name text : String) : Program Pattern :=
  .compile text fun
    | .ok pattern => .done pattern
    | .error fault => .fail (.invalidPattern name fault)

/-- Notes a line and ends with a result. -/
def noting (line : String) (result : α) : Program α :=
  .note line (.done result)

/-- Carries a program out. -/
def run {State : Type} (handler : Handler State) : Program α → Attempt State α
  | .done result => pure result
  | .fail error => throw error
  | .resolve value next => do
    let resolved ← handler.resolve value
    run handler (next resolved)
  | .compile text next => do
    let compiled ← handler.compile text
    run handler (next compiled)
  | .note line next => do
    handler.note line
    run handler next

/-! ## Laws -/

@[simp] theorem bind_done (program : Program α) : program.bind .done = program := by
  induction program with
  | done result => rfl
  | fail error => rfl
  | resolve value next ih => simp only [bind, ih]
  | compile text next ih => simp only [bind, ih]
  | note line next ih => simp only [bind, ih]

theorem bind_assoc {γ : Type} (program : Program α) (first : α → Program β)
    (second : β → Program γ) :
    (program.bind first).bind second = program.bind fun result => (first result).bind second := by
  induction program with
  | done result => rfl
  | fail error => rfl
  | resolve value next ih => simp only [bind, ih]
  | compile text next ih => simp only [bind, ih]
  | note line next ih => simp only [bind, ih]

instance : LawfulMonad Program :=
  LawfulMonad.mk' Program bind_done (fun _ _ => rfl) bind_assoc

/-- A combined program is carried out part by part. -/
theorem run_bind {State : Type} (handler : Handler State) (program : Program α)
    (next : α → Program β) :
    (program.bind next).run handler =
      program.run handler >>= fun result => (next result).run handler := by
  induction program with
  | done result => simp [bind, run]
  | fail error => rfl
  | resolve value rest ih => simp only [bind, run, ih, LawfulMonad.bind_assoc]
  | compile text rest ih => simp only [bind, run, ih, LawfulMonad.bind_assoc]
  | note line rest ih => simp only [bind, run, ih, LawfulMonad.bind_assoc]

end Program

end CloudTemplate

import CloudTemplate.Proofs.Outcome

/-!
# What programs ensure

A program does not know how its requests are answered. What it ensures about its result it ensures
for all answers of some kind, and in turn it promises to ask for values of some kind only
(`Program.Ensures`). The promises of a combined program are those of its parts
(`Program.Ensures.bind`), and what is promised holds of what the program results in
(`Program.Ensures.outcome`).
-/

set_option autoImplicit false

namespace CloudTemplate.Program

variable {α β : Type} {asked given : Value → Prop}

/-- The program asks only for values that are `asked`. If all answers are as `given`, it fails or
ends with a result as in `post`. -/
def Ensures (asked given : Value → Prop) (post : α → Prop) : Program α → Prop
  | .done result => post result
  | .fail _ => True
  | .resolve value next =>
    asked value ∧ ∀ answer, given answer → Ensures asked given post (next answer)
  | .compile _ next => ∀ compiled, Ensures asked given post (next compiled)
  | .note _ next => Ensures asked given post next

namespace Ensures

theorem bind {program : Program α} {next : α → Program β} {mid : α → Prop} {post : β → Prop}
    (first : program.Ensures asked given mid)
    (rest : ∀ result, mid result → (next result).Ensures asked given post) :
    (program >>= next).Ensures asked given post := by
  induction program with
  | done result => exact rest result first
  | fail error => trivial
  | resolve value further ih => exact ⟨first.1, fun answer good => ih answer (first.2 answer good)⟩
  | compile text further ih => exact fun compiled => ih compiled (first compiled)
  | note line further ih => exact ih first

theorem ofExcept {result : Except Error α} {post : α → Prop}
    (holds : ∀ value, result = .ok value → post value) :
    (Program.ofExcept result).Ensures asked given post := by
  cases result with
  | ok value => exact holds value rfl
  | error error => trivial

theorem resolved {value : Value} (permitted : asked value) :
    (Program.resolved value).Ensures asked given given :=
  ⟨permitted, fun _ good => good⟩

/-- **What a program ensures holds of its result.** -/
theorem outcome {program : Program α} {post : α → Prop}
    (ensures : program.Ensures asked given post) {answer : Value → Except Error Value}
    (answers : ∀ value, asked value → ∀ found, answer value = .ok found → given found)
    {result : α} (found : program.outcome answer = .ok result) : post result := by
  induction program with
  | done value =>
    cases found
    exact ensures
  | fail error => cases found
  | resolve value next ih =>
    obtain ⟨resolved, here, found⟩ := bind_eq_ok_iff.1 found
    exact ih resolved (ensures.2 resolved (answers value ensures.1 resolved here)) found
  | compile text next ih => exact ih _ (ensures _) found
  | note line next ih => exact ih ensures found

end Ensures

end CloudTemplate.Program

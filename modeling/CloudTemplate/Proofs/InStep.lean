import CloudTemplate.Proofs.Matching
import CloudTemplate.Function.Mapping
import CloudTemplate.Function.Substitution

/-!
# Calls in step

Two programs whose requests are answered by two resolutions are in step when both fail or both end
with related results (`Program.InStep`). Two calls of a function stand side by side when they are
written alike and their arguments resolve to values that match (`Invocation.Alongside`). The parts
that functions are made of are in step for such calls: they take the arguments apart in the same
way, and keep both calls or none.

A function may do more with an answer than to pass it on. It compares whole values, renders them, or
reads them as keys, and there it matters which calls they hold. Such answers have to be equal,
unless they are calls themselves (`Function.exactPlaces`, `Value.Reads`).
-/

set_option autoImplicit false

namespace CloudTemplate

/-! ## Programs -/

/-- With the answers of two resolutions, both programs fail, or both end with related results. -/
def Program.InStep (first second : Value → Except Error Value) {α β : Type}
    (related : α → β → Prop) (program : Program α) (other : Program β) : Prop :=
  Alike related (program.outcome first) (other.outcome second)

namespace Program.InStep

variable {first second : Value → Except Error Value} {α β γ δ : Type} {related : α → β → Prop}

theorem done {value : α} {last : β} (here : related value last) :
    InStep first second related (pure value) (pure last) :=
  .found here

theorem failed (error other : Error) : InStep first second related (.fail error) (.fail other) :=
  Alike.failed error other

theorem bind {program : Program α} {other : Program β} {further : γ → δ → Prop}
    {next : α → Program γ} {later : β → Program δ}
    (here : InStep first second related program other)
    (rest : ∀ value last, related value last →
      InStep first second further (next value) (later last)) :
    InStep first second further (program >>= next) (other >>= later) := by
  change Alike further ((program.bind next).outcome first) ((other.bind later).outcome second)
  rw [outcome_bind, outcome_bind]
  exact Alike.bind here rest

theorem imp {program : Program α} {other : Program β} {weaker : α → β → Prop}
    (here : InStep first second related program other)
    (implies : ∀ value last, related value last → weaker value last) :
    InStep first second weaker program other :=
  Alike.imp here implies

theorem resolved {related : Value → Value → Prop} {value last : Value}
    (asked : Alike related (first value) (second last)) :
    InStep first second related (Program.resolved value) (Program.resolved last) := by
  change Alike related (first value >>= Except.ok) (second last >>= Except.ok)
  exact asked.bind fun _ _ here => .found here

theorem ofExcept {result : Except Error α} {last : Except Error β}
    (alike : Alike related result last) :
    InStep first second related (Program.ofExcept result) (Program.ofExcept last) := by
  unfold InStep
  rw [outcome_ofExcept, outcome_ofExcept]
  exact alike

theorem compiled (name other text : String) :
    InStep first second (· = ·) (Program.compiled name text) (Program.compiled other text) := by
  unfold InStep Program.compiled
  simp only [outcome]
  cases Pattern.compile text with
  | ok pattern => exact .found rfl
  | error fault => exact .failed _ _

end Program.InStep

/-! ## Calls side by side -/

/-- Both arguments are lists of the same length, whose items are asked for at their places, or
neither is a list. -/
inductive Value.SideBySide (asked : Nat → Value → Value → Prop) : Value → Value → Prop
  | lists {items others : List Value} (length : items.length = others.length)
      (all : ∀ place item other, items[place]? = some item → others[place]? = some other →
        asked place item other) : SideBySide asked (.list items) (.list others)
  | other {value other : Value} (here : value.asList? = none) (there : other.asList? = none) :
      SideBySide asked value other

/-- Arguments stand side by side with themselves if each is asked for together with itself. -/
theorem Value.SideBySide.self {asked : Nat → Value → Value → Prop} {arguments : Value}
    (each : ∀ place item, item.Within arguments → asked place item item) :
    SideBySide asked arguments arguments := by
  cases arguments with
  | list items =>
    refine .lists rfl fun place item other found again => ?_
    obtain rfl : item = other := Option.some.inj (found.symm.trans again)
    exact each place item (.item (List.mem_of_getElem? found) (.self item))
  | _ => exact .other rfl rfl

/-- The places of the arguments that a function compares as a whole, renders, or reads as keys. -/
def Function.exactPlaces : (name : String) → List Nat
  | "Equals" | "Contains" | "EachMemberIn" | "Index" => [0, 1]
  | "Join" => [0]
  | "Split" | "Indent" | "Replace" | "MatchPattern" => [1]
  | "FindInMap" => [1, 2]
  | _ => []

/-- A function reads the same in two answers that it has for an argument: they match, and are equal
where it looks at more than what they are made of. -/
structure Value.Reads (config : Config) (calls : Value → Value → Prop) (name : String)
    (place : Nat) (value other : Value) : Prop where
  same : value.Matches config calls other
  /-- What is compared, rendered or read as a key is equal, or a call. -/
  equal : place ∈ Function.exactPlaces name → value.isCall config = false → value = other
  /-- The variables of a substitution have equal values, or calls. -/
  inline : name = "Sub" → value.isCall config = false → ∀ key held last,
    value.get? key = some held → other.get? key = some last → held.isCall config = false →
      held = last
  /-- Calls that are projected have the same keys, with values that match. -/
  projected : name = "SelectMapList" → ∀ items others, value = .list items → other = .list others →
    List.Forall₂ (fun item last => item.isCall config = true →
      ∀ key, Option.Rel (Matches config calls) (item.get? key) (last.get? key)) items others

/-- The text and the variables among the arguments of a substitution. -/
def Substitution.parts? : Value → Option (Value × Option Value)
  | .list [text] => some (text, none)
  | .list [text, inline] => some (text, some inline)
  | .list _ => none
  | text => some (text, none)

/-- Two calls of a function are written alike, and their arguments resolve to values in which the
function reads the same. -/
structure Invocation.Alongside (first second : Value → Except Error Value)
    (calls : Value → Value → Prop) (name : String) (one other : Invocation) : Prop where
  key : other.key = one.key
  config : other.scope.config = one.scope.config
  whole : Alike (Value.Matches one.scope.config calls) (first one.arguments)
    (second other.arguments)
  items : Value.SideBySide
    (fun place item last =>
      Alike (Value.Reads one.scope.config calls name place) (first item) (second last))
    one.arguments other.arguments
  tables : ∀ table outer inner, Option.Rel
    (fun value last => Alike (Value.Matches one.scope.config calls) (first value) (second last))
    (Mapping.entry? one.scope.template table outer inner)
    (Mapping.entry? other.scope.template table outer inner)
  /-- A name in the text of a substitution has the same value as a parameter, or is a variable. -/
  tokens : name = "Sub" → ∀ text inline, Substitution.parts? other.arguments = some (text, inline) →
    ∀ written, second text = .ok (.string written) →
      ∀ token, .name token ∈ Substitution.pieces written.toList →
        other.scope.parameters.get? (String.ofList token) =
            one.scope.parameters.get? (String.ofList token) ∨
          ∃ value, inline = some value ∧ ∀ entries, second value = .ok (.map entries) →
            (Entries.get? entries (String.ofList token)).isSome
  /-- The value of a document matches itself. -/
  documents : name = "GetJsonValue" → ∀ text entries key value,
    Json.read text = .ok (.object entries) → Entries.get? entries key = some value →
      (Value.ofJson value).Matches one.scope.config calls (Value.ofJson value)

/-- Both calls are kept, or they end with values that match. -/
def Invocation.EndsAlike (calls : Value → Value → Prop) (one other : Invocation)
    (result last : Value) : Prop :=
  result = one.node ∧ last = other.node ∨ result.Matches one.scope.config calls last

/-- The function ends alike for calls that stand side by side. -/
def Function.StaysInStep (name : String) (function : Function) : Prop :=
  ∀ first second calls one other, Invocation.Alongside first second calls name one other →
    Program.InStep first second (Invocation.EndsAlike calls one other) (function one)
      (function other)

namespace Invocation

variable {first second : Value → Except Error Value} {calls : Value → Value → Prop}
  {one other : Invocation}

/-! ## Parts of functions -/

/-- Scalars that are the same are a common end. -/
theorem inStep_scalar {result : Value} (scalar : result.IsScalar) :
    Program.InStep first second (one.EndsAlike calls other) (pure result) (pure result) :=
  .done (.inr (.scalar scalar))

theorem inStep_keep :
    Program.InStep first second (one.EndsAlike calls other) one.keep other.keep :=
  .done (.inl ⟨rfl, rfl⟩)

theorem inStep_noted (line also : String) :
    Program.InStep first second (one.EndsAlike calls other) (.noting line one.node)
      (.noting also other.node) :=
  Alike.found (.inl ⟨rfl, rfl⟩)

/-- What two calls are given at a place of their lists. -/
abbrev Given (first second : Value → Except Error Value) (calls : Value → Value → Prop)
    (name : String) (one : Invocation) (place : Nat) (item last : Value) : Prop :=
  Alike (Value.Reads one.scope.config calls name place) (first item) (second last)

section Arguments

variable {asked : Nat → Value → Value → Prop}
  (items : Value.SideBySide asked one.arguments other.arguments)
include items

/-- The arguments are lists of the same length, or neither call has a list. -/
theorem inStep_argumentList : Program.InStep first second
    (fun items others => items.length = others.length ∧ ∀ place item last,
      items[place]? = some item → others[place]? = some last → asked place item last)
    one.argumentList other.argumentList := by
  unfold argumentList
  generalize one.arguments = written at items
  generalize other.arguments = also at items
  cases items with
  | lists length all => exact .done ⟨length, all⟩
  | other here there =>
    cases written with
    | list items => cases here
    | _ =>
      cases also with
      | list others => cases there
      | _ => exact .failed _ _

theorem inStep_oneArgument :
    Program.InStep first second (asked 0) one.oneArgument other.oneArgument := by
  refine (inStep_argumentList items).bind fun items others given => ?_
  match items, others, given with
  | [_], [_], ⟨_, given⟩ => exact .done (given 0 _ _ rfl rfl)
  | [], [], _ => exact .failed _ _
  | _ :: _ :: _, _ :: _ :: _, _ => exact .failed _ _

theorem inStep_twoArguments : Program.InStep first second
    (fun pair last => asked 0 pair.1 last.1 ∧ asked 1 pair.2 last.2)
    one.twoArguments other.twoArguments := by
  refine (inStep_argumentList items).bind fun items others given => ?_
  match items, others, given with
  | [_, _], [_, _], ⟨_, given⟩ => exact .done ⟨given 0 _ _ rfl rfl, given 1 _ _ rfl rfl⟩
  | [], [], _ => exact .failed _ _
  | [_], [_], _ => exact .failed _ _
  | _ :: _ :: _ :: _, _ :: _ :: _ :: _, _ => exact .failed _ _

theorem inStep_threeArguments : Program.InStep first second
    (fun triple last => asked 0 triple.1 last.1 ∧ asked 1 triple.2.1 last.2.1 ∧
      asked 2 triple.2.2 last.2.2)
    one.threeArguments other.threeArguments := by
  refine (inStep_argumentList items).bind fun items others given => ?_
  match items, others, given with
  | [_, _, _], [_, _, _], ⟨_, given⟩ =>
    exact .done ⟨given 0 _ _ rfl rfl, given 1 _ _ rfl rfl, given 2 _ _ rfl rfl⟩
  | [], [], _ => exact .failed _ _
  | [_], [_], _ => exact .failed _ _
  | [_, _], [_, _], _ => exact .failed _ _
  | _ :: _ :: _ :: _ :: _, _ :: _ :: _ :: _ :: _, _ => exact .failed _ _

end Arguments

section AllArguments

variable {name : String} (along : Alongside first second calls name one other)
include along

/-- All arguments resolve to values that match. -/
theorem inStep_allArguments : Program.InStep first second
    (List.Forall₂ fun item last =>
      Alike (Value.Matches one.scope.config calls) (first item) (second last))
    one.argumentList other.argumentList := by
  refine (inStep_argumentList along.items).imp fun items others given => ?_
  refine List.forall₂_iff_get.2 ⟨given.1, fun place here there => ?_⟩
  refine (given.2 place _ _ ?_ ?_).imp fun _ _ reads => reads.same
  · exact List.getElem?_eq_getElem here
  · exact List.getElem?_eq_getElem there

theorem inStep_atLeast (least : Nat) : Program.InStep first second
    (List.Forall₂ fun item last =>
      Alike (Value.Matches one.scope.config calls) (first item) (second last))
    (one.atLeast least) (other.atLeast least) := by
  refine (inStep_allArguments along).bind fun items others given => ?_
  rw [given.length_eq]
  split
  · exact .failed _ _
  · exact .done given

end AllArguments

section Answers

variable (config : other.scope.config = one.scope.config)
include config

/-- Both answers are calls, or both programs go on. -/
theorem inStep_known {value last : Value} {related : Value → Value → Prop}
    (asked : Alike related (first value) (second last))
    (same : ∀ answer final, related answer final →
      answer.isCall one.scope.config = final.isCall one.scope.config)
    {next later : Value → Program Value}
    (rest : ∀ answer final, related answer final → answer.isCall one.scope.config = false →
      Program.InStep first second (one.EndsAlike calls other) (next answer) (later final)) :
    Program.InStep first second (one.EndsAlike calls other) (one.known value next)
      (other.known last later) := by
  refine (Program.InStep.resolved asked).bind fun answer final here => ?_
  unfold isCall
  rw [config, ← same answer final here]
  cases data : answer.isCall one.scope.config with
  | true => exact inStep_keep
  | false => exact rest answer final here data

/-- Answers that the function reads. -/
theorem inStep_reading {name : String} {place : Nat} {value last : Value}
    (asked : Given first second calls name one place value last)
    {next later : Value → Program Value}
    (rest : ∀ answer final, answer.Reads one.scope.config calls name place final →
      answer.isCall one.scope.config = false →
      Program.InStep first second (one.EndsAlike calls other) (next answer) (later final)) :
    Program.InStep first second (one.EndsAlike calls other) (one.known value next)
      (other.known last later) :=
  inStep_known config asked (fun _ _ reads => reads.same.isCall_eq) rest

/-- Answers that match. -/
theorem inStep_matching {value last : Value}
    (asked : Alike (Value.Matches one.scope.config calls) (first value) (second last))
    {next later : Value → Program Value}
    (rest : ∀ answer final, answer.Matches one.scope.config calls final →
      Program.InStep first second (one.EndsAlike calls other) (next answer) (later final)) :
    Program.InStep first second (one.EndsAlike calls other) (one.known value next)
      (other.known last later) :=
  inStep_known config asked (fun _ _ same => same.isCall_eq) fun answer final same _ =>
    rest answer final same

theorem inStep_allKnown {values lasts : List Value}
    (asked : List.Forall₂ (fun value last =>
      Alike (Value.Matches one.scope.config calls) (first value) (second last)) values lasts)
    {next later : List Value → Program Value}
    (rest : ∀ answers finals,
      List.Forall₂ (Value.Matches one.scope.config calls) answers finals →
      Program.InStep first second (one.EndsAlike calls other) (next answers) (later finals)) :
    Program.InStep first second (one.EndsAlike calls other) (one.allKnown values next)
      (other.allKnown lasts later) := by
  induction asked generalizing next later with
  | nil => exact rest [] [] .nil
  | cons here _ ih =>
    refine inStep_matching config here fun answer final same => ?_
    exact ih fun answers finals all => rest _ _ (.cons same all)

theorem inStep_bothKnown {name : String} {pair lasts : Value × Value}
    (asked : Given first second calls name one 0 pair.1 lasts.1 ∧
      Given first second calls name one 1 pair.2 lasts.2)
    {next later : Value → Value → Program Value}
    (rest : ∀ answer final more last, answer.Reads one.scope.config calls name 0 final →
      answer.isCall one.scope.config = false → more.Reads one.scope.config calls name 1 last →
      more.isCall one.scope.config = false →
      Program.InStep first second (one.EndsAlike calls other) (next answer more)
        (later final last)) :
    Program.InStep first second (one.EndsAlike calls other) (one.bothKnown pair next)
      (other.bothKnown lasts later) :=
  inStep_reading config asked.1 fun answer final reads data =>
    inStep_reading config asked.2 fun more last also known =>
      rest answer final more last reads data also known

end Answers

section Expectations

variable {config : Config} {answer final : Value} (same : answer.Matches config calls final)
include same

theorem inStep_expectText (argument : String) :
    Program.InStep first second (fun text last => text = last ∧ final = .string last)
      (one.expectText argument answer) (other.expectText argument final) := by
  cases answer with
  | list items =>
    obtain ⟨others, rfl, -⟩ := Value.matches_list_iff.1 same
    exact .failed _ _
  | map entries =>
    obtain ⟨others, rfl⟩ := same.exists_map
    exact .failed _ _
  | string text =>
    obtain rfl := same.eq_of_isScalar trivial
    exact .done ⟨rfl, rfl⟩
  | _ =>
    rw [same.eq_of_isScalar trivial]
    exact .failed _ _

theorem inStep_expectList (argument : String) :
    Program.InStep first second
      (fun items others => answer = .list items ∧ final = .list others ∧
        List.Forall₂ (Value.Matches config calls) items others)
      (one.expectList argument answer) (other.expectList argument final) := by
  cases answer with
  | list items =>
    obtain ⟨others, rfl, all⟩ := Value.matches_list_iff.1 same
    exact .done ⟨rfl, rfl, all⟩
  | map entries =>
    obtain ⟨others, rfl⟩ := same.exists_map
    exact .failed _ _
  | _ =>
    rw [same.eq_of_isScalar trivial]
    exact .failed _ _

theorem inStep_expectMap (data : answer.isCall config = false) (argument : String) :
    Program.InStep first second
      (fun entries others => answer = .map entries ∧ final = .map others ∧
        List.Forall₂ (EntryRel (Value.Matches config calls)) entries others)
      (one.expectMap argument answer) (other.expectMap argument final) := by
  cases answer with
  | list items =>
    obtain ⟨others, rfl, -⟩ := Value.matches_list_iff.1 same
    exact .failed _ _
  | map entries =>
    obtain ⟨-, others, rfl, all⟩ := (Value.matches_map_iff data).1 same
    exact .done ⟨rfl, rfl, all⟩
  | _ =>
    rw [same.eq_of_isScalar trivial]
    exact .failed _ _

/-- Values that match have the same truth, or none. -/
theorem toBool_alike : Alike (· = ·) answer.toBool final.toBool := by
  cases answer with
  | list items =>
    obtain ⟨others, rfl, -⟩ := Value.matches_list_iff.1 same
    exact .failed _ _
  | map entries =>
    obtain ⟨others, rfl⟩ := same.exists_map
    exact .failed _ _
  | _ =>
    rw [same.eq_of_isScalar trivial]
    exact .of_eq (fun _ => rfl) _

theorem inStep_expectTruth :
    Program.InStep first second (· = ·) (expectTruth answer) (expectTruth final) :=
  .ofExcept (toBool_alike same)

end Expectations

end Invocation

end CloudTemplate

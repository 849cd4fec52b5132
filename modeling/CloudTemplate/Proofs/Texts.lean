import CloudTemplate.Resolver
import CloudTemplate.Proofs.Answers

/-!
# Calls and texts

Eight functions make texts out of values. A value that is not known yet must not become part of a
text, because a later pass would not find the call in it any more. The functions therefore look for
calls in what they are given, some of them at the value itself only (`TextFunction.lookedAt`), and
some of them through all that is in it (`TextFunction.lookedThrough`).

Where they look, they find: a value that is a call, or one that is looked through and holds a call,
keeps the call that is carried out (`TextFunction.run_defers`). Where they only look at a value, a
call further inside is missed and ends up in the text (`not_defers_hidden`). Nothing else can go
wrong, so a run defers whenever it meets a call exactly when it defers anyway or no value that is
only looked at hides a call.
-/

set_option autoImplicit false

namespace CloudTemplate

open Program (AsksNothing)

/-- The functions that make texts out of values, or match them. -/
inductive TextFunction where
  | join
  | split
  | sub
  | base64Encode
  | str
  | indent
  | replace
  | matchPattern
  deriving Repr, DecidableEq

namespace TextFunction

/-- The name under which the function is registered. -/
def name : TextFunction → String
  | .join => "Join"
  | .split => "Split"
  | .sub => "Sub"
  | .base64Encode => "Base64Encode"
  | .str => "Str"
  | .indent => "Indent"
  | .replace => "Replace"
  | .matchPattern => "MatchPattern"

/-- What the function does. -/
def function : TextFunction → Function
  | .join => Strings.join
  | .split => Strings.split
  | .sub => Substitution.sub
  | .base64Encode => Strings.base64Encode
  | .str => Strings.str
  | .indent => Strings.indent
  | .replace => Strings.replace
  | .matchPattern => Strings.matchPattern

theorem standard_function? (function : TextFunction) :
    Registry.standard.function? function.name = some function.function := by
  cases function <;> rfl

end TextFunction

/-! ## Values that become texts -/

/-- The values of the names in a text with tokens. -/
def Substitution.used (call : Invocation) (inline : Entries Value) :
    List Substitution.Piece → List Value
  | [] => []
  | .name name :: pieces =>
    let name := String.ofList name
    ((Entries.get? inline name).or (call.scope.parameters.get? name)).toList ++
      used call inline pieces
  | _ :: pieces => used call inline pieces

namespace TextFunction

/-- The values that become texts and of which the function looks whether they are calls: the
delimiter of a joined list, the values of names in a substitution, and the text that is split,
indented, searched or matched. -/
def lookedAt (function : TextFunction) (call : Invocation) (answers : List Value) : List Value :=
  match function, answers with
  | .join, delimiter :: _ => [delimiter]
  | .split, [_, source] | .indent, [_, source] | .replace, [_, source]
  | .matchPattern, [_, source] => [source]
  | .sub, [.string text] => Substitution.used call [] (Substitution.pieces text.toList)
  | .sub, [.string text, .map inline] =>
    Substitution.used call inline (Substitution.pieces text.toList)
  | _, _ => []

/-- The values that become texts and of which the function looks whether they hold calls: the parts
of a joined list, the new texts of a replacement, and a value that is all of the text. -/
def lookedThrough (function : TextFunction) (answers : List Value) : List Value :=
  match function, answers with
  | .join, [_, .list parts] => parts
  | .replace, .map replacements :: _ => replacements.map Prod.snd
  | .base64Encode, [value] | .str, [value] => [value]
  | _, _ => []

/-- All values that become texts. -/
def rendered (function : TextFunction) (call : Invocation) (answers : List Value) : List Value :=
  function.lookedThrough answers ++ function.lookedAt call answers

/-- The function finds a call where it looks for one. -/
def Finds (function : TextFunction) (call : Invocation) (answers : List Value) : Prop :=
  (∃ value ∈ function.lookedAt call answers, call.isCall value = true) ∨
    ∃ value ∈ function.lookedThrough answers, call.containsCall value = true

end TextFunction

/-- The run keeps the call, or fails. -/
def Invocation.Defers (call : Invocation) (result : Except Error Value) : Prop :=
  result = .ok call.node ∨ ∃ error, result = .error error

/-! ## Parts that ask for nothing -/

namespace Invocation

variable (call : Invocation)

theorem argumentList_asksNothing : call.argumentList.AsksNothing := by
  unfold argumentList
  cases call.arguments <;> trivial

theorem twoArguments_asksNothing : call.twoArguments.AsksNothing := by
  refine call.argumentList_asksNothing.bind fun arguments => ?_
  match arguments with
  | [_, _] => rfl
  | [] | [_] | _ :: _ :: _ :: _ => trivial

theorem expectText_asksNothing (argument : String) (value : Value) :
    (call.expectText argument value).AsksNothing := by
  cases value <;> trivial

theorem compiled_asksNothing (key text : String) : (Program.compiled key text).AsksNothing := by
  intro compiled
  cases compiled with
  | ok pattern => rfl
  | error fault => trivial

variable {call}

/-- The call is kept at an answer that is a call. -/
theorem relates_known {value : Value} {next : Value → Program Value}
    {related : List Value → Value → Prop} (kept : ∀ answers, related answers call.node)
    (rest : ∀ answer, call.isCall answer = false →
      (next answer).Relates fun answers => related (answer :: answers)) :
    (call.known value next).Relates related := by
  intro answer
  change (if call.isCall answer then call.keep else next answer).Relates _
  cases data : call.isCall answer with
  | true => exact kept [answer]
  | false => exact rest answer data

theorem relates_bothKnown {arguments : Value × Value} {next : Value → Value → Program Value}
    {related : List Value → Value → Prop} (kept : ∀ answers, related answers call.node)
    (rest : ∀ first second, call.isCall first = false → call.isCall second = false →
      (next first second).Relates fun answers => related (first :: second :: answers)) :
    (call.bothKnown arguments next).Relates related :=
  relates_known kept fun first one => relates_known (fun answers => kept (first :: answers))
    fun second other => rest first second one other

end Invocation

namespace TextFunction

/-- What is to be shown of each function: it keeps its call, or has found none. -/
abbrev Careful (function : TextFunction) (call : Invocation) (answers : List Value)
    (result : Value) : Prop :=
  result = call.node ∨ ¬function.Finds call answers

variable {call : Invocation}

/-- No call is found among values that are none or hold none. -/
theorem not_finds {function : TextFunction} {answers : List Value}
    (at_first : ∀ value ∈ function.lookedAt call answers, call.isCall value = false)
    (through : ∀ value ∈ function.lookedThrough answers, call.containsCall value = false) :
    ¬function.Finds call answers := by
  rintro (⟨value, member, found⟩ | ⟨value, member, found⟩)
  · rw [at_first value member] at found
    cases found
  · rw [through value member] at found
    cases found

theorem join_careful : (Strings.join call).Relates (Careful .join call) := by
  refine call.twoArguments_asksNothing.bind fun arguments => ?_
  refine Invocation.relates_bothKnown (fun _ => .inl rfl) fun delimiter list known _ => ?_
  cases list with
  | list parts =>
    change (if parts.any call.containsCall then call.keep else _).Relates _
    cases holds : parts.any call.containsCall with
    | true => exact .inl rfl
    | false =>
      rw [List.any_eq_false] at holds
      refine .inr (not_finds (List.forall_mem_singleton.2 known) fun part member => ?_)
      exact Bool.eq_false_iff.2 (holds part member)
  | _ => trivial

theorem split_careful : (Strings.split call).Relates (Careful .split call) := by
  refine call.twoArguments_asksNothing.bind fun arguments => ?_
  refine Invocation.relates_bothKnown (fun _ => .inl rfl) fun delimiter source _ known => ?_
  refine (call.expectText_asksNothing "delimiter" delimiter).bind fun text => ?_
  exact .inr (not_finds (List.forall_mem_singleton.2 known) (List.forall_mem_nil _))

theorem indentCount_asksNothing (value : Value) :
    (Strings.indentCount call value).AsksNothing := by
  have counted : ∀ count : Int64, AsksNothing
      (if count < 0 then call.refuse (.negativeIndent count) else pure count.toInt.toNat) := by
    intro count
    split
    · trivial
    · rfl
  cases value with
  | int n => exact counted n
  | float x => exact counted (Decimal.truncateToInt64 x)
  | _ => trivial

theorem indent_careful : (Strings.indent call).Relates (Careful .indent call) := by
  refine call.twoArguments_asksNothing.bind fun arguments => ?_
  refine Invocation.relates_bothKnown (fun _ => .inl rfl) fun count source _ known => ?_
  refine (indentCount_asksNothing count).bind fun spaces => ?_
  dsimp only
  split
  · trivial
  · exact .inr (not_finds (List.forall_mem_singleton.2 known) (List.forall_mem_nil _))

theorem matchPattern_careful :
    (Strings.matchPattern call).Relates (Careful .matchPattern call) := by
  refine call.twoArguments_asksNothing.bind fun arguments => ?_
  refine Invocation.relates_bothKnown (fun _ => .inl rfl) fun pattern source _ known => ?_
  refine (call.expectText_asksNothing "pattern" pattern).bind fun text => ?_
  refine (Invocation.compiled_asksNothing call.key text).bind fun compiled => ?_
  exact .inr (not_finds (List.forall_mem_singleton.2 known) (List.forall_mem_nil _))

theorem replace_careful : (Strings.replace call).Relates (Careful .replace call) := by
  refine call.twoArguments_asksNothing.bind fun arguments => ?_
  refine Invocation.relates_bothKnown (fun _ => .inl rfl) fun replacements source _ known => ?_
  cases replacements with
  | map entries =>
    change (if entries.any fun entry => call.containsCall entry.2 then call.keep else _).Relates _
    cases holds : entries.any fun entry => call.containsCall entry.2 with
    | true => exact .inl rfl
    | false =>
      rw [List.any_eq_false] at holds
      refine .inr (not_finds (List.forall_mem_singleton.2 known) fun value member => ?_)
      obtain ⟨entry, listed, rfl⟩ := List.mem_map.1 member
      exact Bool.eq_false_iff.2 (holds entry listed)
  | _ => trivial

/-- A value that is all of the text is looked through. -/
theorem unlessCall_careful {function : TextFunction} {value : Value} (text : Value → String)
    (nothing : function.lookedAt call [value] = [])
    (only : function.lookedThrough [value] = [value]) :
    (call.unlessCall value (pure (.string (text value)))).Relates fun answers =>
      Careful function call (value :: answers) := by
  unfold Invocation.unlessCall
  cases holds : call.containsCall value with
  | true => exact .inl rfl
  | false =>
    refine .inr (not_finds ?_ ?_)
    · rw [nothing]
      exact List.forall_mem_nil _
    · rw [only]
      exact List.forall_mem_singleton.2 holds

theorem base64Encode_careful : (Strings.base64Encode call).Relates (Careful .base64Encode call) :=
  fun _ => unlessCall_careful (fun value => Base64.encodeText value.text) rfl rfl

theorem str_careful : (Strings.str call).Relates (Careful .str call) :=
  fun _ => unlessCall_careful Value.text rfl rfl

/-! ### Substitution -/

theorem arguments_asksNothing : (Substitution.arguments call).AsksNothing := by
  unfold Substitution.arguments
  split
  · rfl
  · rfl
  · trivial
  · rfl

/-- A name has no value while that is a call. -/
theorem isCall_eq_false_of_substitute {inline : Entries Value} {pieces : List Substitution.Piece}
    {text : List Char} (made : Substitution.substitute call inline pieces = .ok text) :
    ∀ value ∈ Substitution.used call inline pieces, call.isCall value = false := by
  induction pieces generalizing text with
  | nil => exact List.forall_mem_nil _
  | cons piece pieces ih =>
    cases piece with
    | plain c =>
      obtain ⟨rest, further, _⟩ := bind_eq_ok_iff.1 made
      exact ih further
    | escape name =>
      obtain ⟨rest, further, _⟩ := bind_eq_ok_iff.1 made
      exact ih further
    | name name =>
      unfold Substitution.substitute at made
      split at made
      · cases made
      · cases valued : Substitution.value? call inline name with
        | none =>
          rw [valued] at made
          cases made
        | some found =>
          rw [valued] at made
          obtain ⟨rest, further, _⟩ := bind_eq_ok_iff.1 made
          refine List.forall_mem_append.2 ⟨fun value member => ?_, ih further⟩
          unfold Substitution.value? at valued
          dsimp only at valued
          rw [Option.mem_toList] at member
          rw [member] at valued
          dsimp only at valued
          split at valued
          · cases valued
          · next data => exact Bool.eq_false_iff.2 data

/-- A substitution makes its text, or keeps its call. -/
theorem substitute_relates {inline : Entries Value} {pieces : List Substitution.Piece}
    {related : List Value → Value → Prop} (kept : related [] call.node)
    (made : (∀ value ∈ Substitution.used call inline pieces, call.isCall value = false) →
      ∀ text, related [] (.string text)) :
    (do
      let _ ← Program.compiled call.key Substitution.tokenPattern
      match Substitution.substitute call inline pieces with
      | .ok result => pure (.string (String.ofList result))
      | .error line => Program.noting line call.node : Program Value).Relates related := by
  refine (Invocation.compiled_asksNothing _ _).bind fun _ => ?_
  cases substituted : Substitution.substitute call inline pieces with
  | ok text => exact made (isCall_eq_false_of_substitute substituted) _
  | error line => exact kept

theorem sub_careful : (Substitution.sub call).Relates (Careful .sub call) := by
  refine arguments_asksNothing.bind fun arguments => ?_
  obtain ⟨text, inline⟩ := arguments
  refine Invocation.relates_known (fun _ => .inl rfl) fun template _ => ?_
  cases template with
  | string text =>
    cases inline with
    | none =>
      exact substitute_relates (.inl rfl) fun known _ =>
        .inr (not_finds known (List.forall_mem_nil _))
    | some written =>
      refine Invocation.relates_known (fun _ => .inl rfl) fun value _ => ?_
      cases value with
      | map entries =>
        exact substitute_relates (.inl rfl) fun known _ =>
          .inr (not_finds known (List.forall_mem_nil _))
      | _ => trivial
  | _ => trivial

/-! ## All functions -/

theorem careful (function : TextFunction) (call : Invocation) :
    (function.function call).Relates (Careful function call) := by
  cases function with
  | join => exact join_careful
  | split => exact split_careful
  | sub => exact sub_careful
  | base64Encode => exact base64Encode_careful
  | str => exact str_careful
  | indent => exact indent_careful
  | replace => exact replace_careful
  | matchPattern => exact matchPattern_careful

/-- A function that finds a call where it looks for one keeps its own, or fails. -/
theorem defers_of_finds (function : TextFunction) (call : Invocation) {State : Type}
    (handler : Handler State) (state : State)
    (finds : function.Finds call ((function.function call).answers handler state)) :
    call.Defers (((function.function call).run handler).resultFrom state) := by
  cases found : ((function.function call).run handler).resultFrom state with
  | error error => exact .inr ⟨error, rfl⟩
  | ok result =>
    rcases (function.careful call).run handler found with rfl | none
    · exact .inl rfl
    · exact absurd finds none

/-- **Where a function looks for calls, it finds them.** In every run a value that becomes a text
and is a call makes the function keep its own call, unless it fails, and so does one that is looked
through and holds a call. A run keeps its call for whatever call is held by such values exactly when
it does so anyway, or each value that is only looked at and holds a call is one itself. -/
theorem run_defers (function : TextFunction) (call : Invocation) {State : Type}
    (handler : Handler State) (state : State) :
    let answers := (function.function call).answers handler state
    let result := ((function.function call).run handler).resultFrom state
    (∀ value ∈ function.rendered call answers, call.isCall value = true → call.Defers result) ∧
      (∀ value ∈ function.lookedThrough answers, call.containsCall value = true →
        call.Defers result) ∧
      ((∀ value ∈ function.rendered call answers, call.containsCall value = true →
          call.Defers result) ↔
        call.Defers result ∨ ∀ value ∈ function.lookedAt call answers,
          call.containsCall value = true → call.isCall value = true) := by
  intro answers result
  have found : function.Finds call answers → call.Defers result :=
    function.defers_of_finds call handler state
  have through : ∀ value ∈ function.lookedThrough answers, call.containsCall value = true →
      call.Defers result :=
    fun value member holds => found (.inr ⟨value, member, holds⟩)
  have at_first : ∀ value ∈ function.lookedAt call answers, call.isCall value = true →
      call.Defers result :=
    fun value member is_call => found (.inl ⟨value, member, is_call⟩)
  refine ⟨?_, through, ?_, ?_⟩
  · intro value member is_call
    rcases List.mem_append.1 member with inside | outside
    · exact through value inside (Value.containsCall_of_isCall is_call)
    · exact at_first value outside is_call
  · intro all
    by_cases defers : call.Defers result
    · exact .inl defers
    · refine .inr fun value member holds => ?_
      exact absurd (all value (List.mem_append_right _ member) holds) defers
  · rintro (defers | only) value member holds
    · exact defers
    · rcases List.mem_append.1 member with inside | outside
      · exact through value inside holds
      · exact at_first value outside (only value outside holds)

/-- A list to be split that holds a reference. -/
def hidden : Invocation :=
  ⟨"Fn::Split", "Split", .list [.string ",", .list [.ofCall "Ref" (.string "X")]],
    ⟨Config.standard, [], .null⟩⟩

/-- The reference is not found, and the text of the list is split. -/
theorem not_defers_hidden :
    let handler := Resolver.handler (Resolver.resolve Registry.standard hidden.scope)
    let answers := (TextFunction.split.function hidden).answers handler {}
    (∃ value ∈ TextFunction.split.rendered hidden answers, hidden.containsCall value = true) ∧
      ¬hidden.Defers (((TextFunction.split.function hidden).run handler).resultFrom {}) := by
  intro handler answers
  have given : answers = [.string ",", .list [.ofCall "Ref" (.string "X")]] := rfl
  obtain ⟨parts, made⟩ : ∃ parts, ((TextFunction.split.function hidden).run handler).resultFrom {} =
      .ok (.list parts) := ⟨_, rfl⟩
  rw [given, made]
  refine ⟨⟨.list [.ofCall "Ref" (.string "X")], List.mem_singleton.2 rfl, rfl⟩, ?_⟩
  rintro (kept | ⟨error, failed⟩)
  · cases kept
  · cases failed

end TextFunction

end CloudTemplate

import CloudTemplate.Function.Strings
import CloudTemplate.Proofs.InStep

/-!
# Functions on texts in step

A text that is made of values is the same for two calls that stand side by side: what is only looked
at is equal or a call, and what is looked through has no call and is therefore equal. Substitutions
look names up, and find the same values for them (`Substitution.value?_eq`).
-/

set_option autoImplicit false

namespace CloudTemplate

variable {first second : Value → Except Error Value} {calls : Value → Value → Prop}
  {one other : Invocation} {name : String}

open Invocation (inStep_scalar inStep_keep inStep_noted inStep_matching inStep_bothKnown
  inStep_twoArguments inStep_expectText inStep_expectList inStep_expectMap)

namespace Substitution

/-- The text and the variables of two calls. -/
theorem inStep_arguments (along : Invocation.Alongside first second calls name one other) :
    Program.InStep first second
      (fun found last => parts? other.arguments = some last ∧
        Alike (Value.Matches one.scope.config calls) (first found.1) (second last.1) ∧
        Option.Rel (Invocation.Given first second calls name one 1) found.2 last.2)
      (arguments one) (arguments other) := by
  have whole := along.whole
  have items := along.items
  unfold arguments
  generalize one.arguments = written at whole items
  generalize other.arguments = also at whole items
  cases items with
  | @lists items others length all =>
    match items, others, length, all with
    | [_], [_], _, all =>
      exact .done ⟨rfl, (all 0 _ _ rfl rfl).imp fun _ _ reads => reads.same, .none⟩
    | [_, _], [_, _], _, all =>
      exact .done ⟨rfl, (all 0 _ _ rfl rfl).imp fun _ _ reads => reads.same,
        .some (all 1 _ _ rfl rfl)⟩
    | [], [], _, _ => exact .failed _ _
    | _ :: _ :: _ :: _, _ :: _ :: _ :: _, _, _ => exact .failed _ _
  | other here there =>
    cases written with
    | list items => cases here
    | _ =>
      cases also with
      | list others => cases there
      | _ => exact .done ⟨rfl, whole, .none⟩

/-- A name has the same value in both calls, or none. -/
theorem value?_eq (config : other.scope.config = one.scope.config) {inline also : Entries Value}
    (all : List.Forall₂ (EntryRel (Value.Matches one.scope.config calls)) inline also)
    {token : List Char}
    (equal : ∀ held last, inline.get? (String.ofList token) = some held →
      also.get? (String.ofList token) = some last → held.isCall one.scope.config = false →
      held = last)
    (named : other.scope.parameters.get? (String.ofList token) =
        one.scope.parameters.get? (String.ofList token) ∨
      (also.get? (String.ofList token)).isSome) :
    value? one inline token = value? other also token := by
  have is_call : other.isCall = one.isCall := by
    unfold Invocation.isCall
    rw [config]
  unfold value?
  dsimp only
  rw [is_call]
  have rel := EntryRel.get?_rel all (String.ofList token)
  generalize inline.get? (String.ofList token) = here at equal rel
  generalize also.get? (String.ofList token) = there at equal named rel
  cases rel with
  | none =>
    rcases named with same | hidden
    · rw [same]
    · cases hidden
  | @some held last same =>
    have alike := same.isCall_eq
    cases data : held.isCall one.scope.config with
    | true =>
      rw [data] at alike
      simp [Invocation.isCall, data, ← alike]
    | false =>
      rw [equal held last rfl rfl data]
      rfl

/-- Names with the same values are substituted alike. -/
theorem substitute_eq (key : other.key = one.key) (config : other.scope.config = one.scope.config)
    {inline also : Entries Value} {pieces : List Piece}
    (same : ∀ token, .name token ∈ pieces → value? one inline token = value? other also token) :
    substitute one inline pieces = substitute other also pieces := by
  induction pieces with
  | nil => rfl
  | cons piece pieces ih =>
    have rest := ih fun token member => same token (List.mem_cons_of_mem _ member)
    cases piece with
    | plain c => simp only [substitute, rest]
    | escape token => simp only [substitute, rest]
    | name token =>
      simp only [substitute, rest, same token List.mem_cons_self, config, complaint, key]

/-- The variables of two calls. -/
theorem inStep_withInline (config : other.scope.config = one.scope.config)
    {inline also : Option Value}
    (asked : Option.Rel (Invocation.Given first second calls "Sub" one 1) inline also)
    {next later : Entries Value → Program Value}
    (rest : ∀ entries others,
      List.Forall₂ (EntryRel (Value.Matches one.scope.config calls)) entries others →
      (∀ key held last, Entries.get? entries key = some held →
        Entries.get? others key = some last → held.isCall one.scope.config = false →
        held = last) →
      (∀ value, also = some value → second value = .ok (.map others)) →
      Program.InStep first second (one.EndsAlike calls other) (next entries) (later others)) :
    Program.InStep first second (one.EndsAlike calls other) (withInline one inline next)
      (withInline other also later) := by
  cases asked with
  | none =>
    refine rest [] [] .nil (fun key held last found => ?_) nofun
    cases found
  | @some value last given =>
    refine Invocation.inStep_known config given.and_found (fun _ _ reads => reads.1.same.isCall_eq)
      fun answer final reads data => ?_
    obtain ⟨reads, -, found⟩ := reads
    refine (inStep_expectMap reads.same data "variables").bind ?_
    rintro entries others ⟨rfl, rfl, all⟩
    refine rest entries others all (reads.inline rfl data) fun value same => ?_
    cases same
    exact found

theorem sub_staysInStep : Function.StaysInStep "Sub" sub := by
  intro first second calls one other along
  refine (inStep_arguments along).bind ?_
  rintro ⟨text, inline⟩ ⟨last, also⟩ ⟨parts, asked, given⟩
  refine Invocation.inStep_known along.config asked.and_found (fun _ _ same => same.1.isCall_eq)
    fun answer final same _ => ?_
  obtain ⟨same, -, found⟩ := same
  refine (inStep_expectText same "template").bind ?_
  rintro written _ ⟨rfl, rfl⟩
  refine inStep_withInline along.config given fun entries others all equal hidden => ?_
  refine (Program.InStep.compiled one.key other.key tokenPattern).bind fun _ _ _ => ?_
  have substituted : substitute one entries (pieces written.toList) =
      substitute other others (pieces written.toList) := by
    refine substitute_eq along.key along.config fun token member => ?_
    refine value?_eq along.config all (equal (String.ofList token)) ?_
    refine (along.tokens rfl _ _ parts _ found token member).imp_right ?_
    rintro ⟨value, here, holds⟩
    exact holds others (hidden value here)
  rw [substituted]
  cases substitute other others (pieces written.toList) with
  | ok result => exact inStep_scalar trivial
  | error line => exact inStep_noted _ _

end Substitution

namespace Strings

/-- A list of texts matches itself. -/
theorem matches_texts {config : Config} (parts : List (List Char)) :
    let texts := Value.list (parts.map fun part => .string (String.ofList part))
    texts.Matches config calls texts := by
  refine Value.matches_list_iff.2 ⟨_, rfl, List.forall₂_same.2 fun item member => ?_⟩
  obtain ⟨part, -, rfl⟩ := List.mem_map.1 member
  exact .scalar trivial

theorem join_staysInStep : Function.StaysInStep "Join" join := by
  intro first second calls one other along
  refine (inStep_twoArguments along.items).bind fun arguments lasts asked => ?_
  refine inStep_bothKnown along.config asked fun delimiter final list last reads data also _ => ?_
  obtain rfl := reads.equal (by decide) data
  refine (inStep_expectList also.same "values").bind ?_
  rintro parts others ⟨rfl, rfl, -⟩
  have same := also.same.containsCall_eq
  rw [Value.containsCall, Value.containsCall, Value.itemsContainCall_eq_any,
    Value.itemsContainCall_eq_any] at same
  unfold Invocation.containsCall
  rw [along.config, ← same]
  cases plain : parts.any (Value.containsCall one.scope.config) with
  | true => exact inStep_keep
  | false =>
    have none : (Value.list parts).containsCall one.scope.config = false := by
      rw [Value.containsCall, Value.itemsContainCall_eq_any, plain]
    cases also.same.eq_of_containsCall_eq_false none
    exact inStep_scalar trivial

theorem split_staysInStep : Function.StaysInStep "Split" split := by
  intro first second calls one other along
  refine (inStep_twoArguments along.items).bind fun arguments lasts asked => ?_
  refine inStep_bothKnown along.config asked fun delimiter final list last reads _ also data => ?_
  obtain rfl := also.equal (by decide) data
  refine (inStep_expectText reads.same "delimiter").bind ?_
  rintro text _ ⟨rfl, -⟩
  exact .done (.inr (matches_texts _))

/-- A text is made of a value only when no call is left in it. -/
theorem inStep_text (along : Invocation.Alongside first second calls name one other)
    (text : Value → String) :
    Program.InStep first second (one.EndsAlike calls other)
      (do
        let value ← Program.resolved one.arguments
        one.unlessCall value (pure (.string (text value))))
      (do
        let value ← Program.resolved other.arguments
        other.unlessCall value (pure (.string (text value)))) := by
  refine (Program.InStep.resolved along.whole).bind fun answer final same => ?_
  unfold Invocation.unlessCall Invocation.containsCall
  rw [along.config, ← same.containsCall_eq]
  cases plain : answer.containsCall one.scope.config with
  | true => exact inStep_keep
  | false =>
    rw [same.eq_of_containsCall_eq_false plain]
    exact inStep_scalar trivial

theorem base64Encode_staysInStep (name : String) : Function.StaysInStep name base64Encode :=
  fun _ _ _ _ _ along => inStep_text along fun value => Base64.encodeText value.text

theorem str_staysInStep (name : String) : Function.StaysInStep name str :=
  fun _ _ _ _ _ along => inStep_text along Value.text

theorem base64Decode_staysInStep (name : String) : Function.StaysInStep name base64Decode := by
  intro first second calls one other along
  refine inStep_matching along.config along.whole fun answer final same => ?_
  refine (inStep_expectText same "value").bind ?_
  rintro encoded _ ⟨rfl, -⟩
  cases Base64.decodeText encoded with
  | ok text => exact inStep_scalar trivial
  | error fault => exact .failed _ _

theorem inStep_indentCount {config : Config} {answer final : Value}
    (same : answer.Matches config calls final) :
    Program.InStep first second (· = ·) (indentCount one answer) (indentCount other final) := by
  have counted : ∀ count : Int64, Program.InStep first second (· = ·)
      (if count < 0 then one.refuse (.negativeIndent count)
        else pure count.toInt.toNat : Program Nat)
      (if count < 0 then other.refuse (.negativeIndent count)
        else pure count.toInt.toNat : Program Nat) := by
    intro count
    split
    · exact .failed _ _
    · exact .done rfl
  cases answer with
  | list items =>
    obtain ⟨others, rfl, -⟩ := Value.matches_list_iff.1 same
    exact .failed _ _
  | map entries =>
    obtain ⟨others, rfl⟩ := same.exists_map
    exact .failed _ _
  | int n =>
    rw [same.eq_of_isScalar trivial]
    exact counted n
  | float x =>
    rw [same.eq_of_isScalar trivial]
    exact counted (Decimal.truncateToInt64 x)
  | _ =>
    rw [same.eq_of_isScalar trivial]
    exact .failed _ _

theorem indent_staysInStep : Function.StaysInStep "Indent" indent := by
  intro first second calls one other along
  refine (inStep_twoArguments along.items).bind fun arguments lasts asked => ?_
  refine inStep_bothKnown along.config asked fun count final source last reads _ also data => ?_
  obtain rfl := also.equal (by decide) data
  refine (inStep_indentCount reads.same).bind fun spaces again equal => ?_
  subst equal
  dsimp only
  rw [along.config]
  split
  · exact .failed _ _
  · exact inStep_scalar trivial

theorem replace_staysInStep : Function.StaysInStep "Replace" replace := by
  intro first second calls one other along
  refine (inStep_twoArguments along.items).bind fun arguments lasts asked => ?_
  refine inStep_bothKnown along.config asked
    fun replacements final source last reads known also data => ?_
  obtain rfl := also.equal (by decide) data
  refine (inStep_expectMap reads.same known "replacements").bind ?_
  rintro entries others ⟨rfl, rfl, -⟩
  have same := reads.same.containsCall_eq
  have unknown := reads.same.isCall_eq
  rw [known] at unknown
  rw [Value.containsCall, Value.containsCall, Value.entriesContainCall_eq_any,
    Value.entriesContainCall_eq_any, known, ← unknown, Bool.false_or, Bool.false_or] at same
  unfold Invocation.containsCall
  rw [along.config, ← same]
  cases plain : entries.any fun entry => entry.2.containsCall one.scope.config with
  | true => exact inStep_keep
  | false =>
    have none : (Value.map entries).containsCall one.scope.config = false := by
      rw [Value.containsCall, Value.entriesContainCall_eq_any, known, plain]
      rfl
    cases reads.same.eq_of_containsCall_eq_false none
    exact inStep_scalar trivial

theorem matchPattern_staysInStep : Function.StaysInStep "MatchPattern" matchPattern := by
  intro first second calls one other along
  refine (inStep_twoArguments along.items).bind fun arguments lasts asked => ?_
  refine inStep_bothKnown along.config asked fun pattern final source last reads _ also data => ?_
  obtain rfl := also.equal (by decide) data
  refine (inStep_expectText reads.same "pattern").bind ?_
  rintro text _ ⟨rfl, -⟩
  refine (Program.InStep.compiled one.key other.key text).bind fun compiled again equal => ?_
  subst equal
  exact inStep_scalar trivial

end Strings

end CloudTemplate

import CloudTemplate.Proofs.Condition.Written
import CloudTemplate.Proofs.Documents
import CloudTemplate.Proofs.InStep.Functions
import CloudTemplate.Proofs.Template.Reordering
import CloudTemplate.Proofs.TwoPasses

/-!
# Conditions inside and outside of their section

Inside the section of conditions, the names of those that have a truth are replaced by it before an
expression is resolved. In the rest of the template the truth stands among the parameters, and hides
parameters of the same names (`Scope.withResults`). For expressions that name conditions in choices
only, both come to the same (`resolve_substitute`).

There are two things that a replacement of texts cannot do. It does not see names that are only
computed, or that stand inside a text (`Overt.condition`, `Overt.tokens`). And calls that wait are
given back as they are written, with the truth in one place and with the name in the other, which
shows where a function looks at more than the values that it passes on (`Overt.exactly`,
`Overt.inline`, `Overt.projected`). Where an expression does without them, the two resolutions go in
step, level by level (`outcome_alike`): what they ask for is related by `Written`, and what they
find is the same but for the names in calls that wait (`SameButNames`).
-/

set_option autoImplicit false

namespace CloudTemplate

open Condition (Results Nameless LooksUp Chooses Written Confined substitute)

/-- The scope in which the conditions with a truth hide the parameters of their names. -/
def Scope.withResults (scope : Scope) (results : Results) : Scope :=
  Resolution.scopeOfPruned scope.config scope.template scope.parameters results

theorem Scope.get?_withResults (scope : Scope) {results : Results} (once : results.Distinct)
    (name : String) :
    (scope.withResults results).parameters.get? name =
      ((results.get? name).map Value.bool).or (scope.parameters.get? name) :=
  Resolution.get?_scopeOfPruned scope.config scope.template scope.parameters once name

/-- A name of no condition stands for the same parameter. -/
theorem Scope.get?_withResults_of_none (scope : Scope) {results : Results}
    (once : results.Distinct) {name : String} (other : results.get? name = none) :
    (scope.withResults results).parameters.get? name = scope.parameters.get? name := by
  rw [scope.get?_withResults once, other]
  rfl

namespace Condition

/-- What the argument at a place resolves to. -/
def Answers (registry : Registry) (scope : Scope) (arguments : Value) (place : Nat)
    (answer : Value) : Prop :=
  ∃ items item, arguments = .list items ∧ items[place]? = some item ∧
    Resolver.Resolves registry scope item answer

/-- A call looks up conditions only where their names are written, and looks at no choice that waits
for more than its condition. -/
structure Overt (registry : Registry) (scope : Scope) (results : Results) (name : String)
    (arguments : Value) : Prop where
  /-- The condition of a choice is written, or no name of a condition. -/
  condition : name = "If" → ∀ text, Answers registry scope arguments 0 (.string text) →
    results.get? text = none ∨ ∃ rest, arguments = .list (.string text :: rest)
  /-- A name in the text of a substitution is a variable, or no name of a condition. -/
  tokens : name = "Sub" → ∀ text inline, Substitution.parts? arguments = some (text, inline) →
    ∀ written, Resolver.Resolves registry scope text (.string written) →
      ∀ token, .name token ∈ Substitution.pieces written.toList →
        results.get? (String.ofList token) = none ∨
          ∃ value, inline = some value ∧ ∀ entries,
            Resolver.Resolves registry scope value (.map entries) →
              (Entries.get? entries (String.ofList token)).isSome
  /-- No choice waits in what is compared, rendered or read as a key. -/
  exactly : ∀ place ∈ Function.exactPlaces name, ∀ answer,
    Answers registry scope arguments place answer → answer.isCall scope.config = false →
      Nameless scope.config results answer
  /-- No choice waits in a variable of a substitution, unless all of the variable waits. -/
  inline : name = "Sub" → ∀ place answer key held, Answers registry scope arguments place answer →
    answer.get? key = some held → held.isCall scope.config = false →
      Nameless scope.config results held
  /-- No choice waits that is projected. -/
  projected : name = "SelectMapList" → ∀ place items,
    Answers registry scope arguments place (.list items) →
      ∀ item ∈ items, ∀ call, item.call? scope.config = some call → ¬ Chooses results call

/-- A choice by a scalar is overt. -/
theorem overt_if_of_isScalar {registry : Registry} {scope : Scope} {results : Results}
    (condition : Value) (scalar : condition.IsScalar) (rest : List Value) :
    Overt registry scope results "If" (.list (condition :: rest)) where
  condition := by
    rintro - text ⟨items, item, listed, found, resolves⟩
    cases listed
    cases found
    exact .inr ⟨rest, by rw [← resolves.eq_of_isScalar scalar]⟩
  tokens := fun same => absurd same (by decide)
  exactly := fun place member => absurd member List.not_mem_nil
  inline := fun same => absurd same (by decide)
  projected := fun same => absurd same (by decide)

/-- A function that passes its answers on, or computes with scalars, is overt. -/
theorem overt_of_exactPlaces_eq_nil {registry : Registry} {scope : Scope} {results : Results}
    {name : String} (others : name ≠ "If" ∧ name ≠ "Sub" ∧ name ≠ "SelectMapList")
    (nowhere : Function.exactPlaces name = []) (arguments : Value) :
    Overt registry scope results name arguments where
  condition := fun same => absurd same others.1
  tokens := fun same => absurd same others.2.1
  exactly := by
    intro place member
    rw [nowhere] at member
    cases member
  inline := fun same => absurd same others.2.1
  projected := fun same => absurd same others.2.2

end Condition

/-- The call looks up conditions only where their names are written. -/
def Call.Overt (registry : Registry) (scope : Scope) (results : Results) : Call → Prop
  | .reference _ => True
  | .function _ name arguments => Condition.Overt registry scope results name arguments

namespace Condition

/-- The calls are the same, or one has the truth and the other the names of conditions. -/
def SameCall (config : Config) (results : Results) (call other : Value) : Prop :=
  call = other ∧ other.DistinctKeys ∨ Written config results call other

/-- The values are the same, but in calls that wait, the names of conditions may have been replaced
by their truth. -/
def SameButNames (config : Config) (results : Results) (value other : Value) : Prop :=
  value.Matches config (SameCall config results) other

section SameButNames

variable {config : Config} {results : Results} {value other : Value}

/-- Without choices by name that wait, the values are equal. -/
theorem SameButNames.eq (same : SameButNames config results value other)
    (silent : Nameless config results other) : value = other := by
  refine Value.Matches.eq_of_forall_within same fun inner inside is_call call related => ?_
  rcases related with ⟨equal, -⟩ | written
  · exact equal
  · exact written.eq_of_nameless (silent.within inside)

theorem sameButNames_self (distinct : value.DistinctKeys) :
    SameButNames config results value value :=
  Value.matches_self distinct fun _ inside _ =>
    .inl ⟨rfl, Value.distinctKeys_of_within inside distinct⟩

/-- Values with the truth and with the names of conditions are the same but for the names. -/
theorem Written.sameButNames (written : Written config results value other) :
    SameButNames config results value other := by
  induction written with
  | scalar scalar => exact .scalar scalar
  | list length all ih => exact .list length ih
  | @map entries others distinct length keys all silent ih =>
    have related := Written.map distinct length keys all silent
    cases is_call : (Value.map entries).isCall config with
    | true => exact .call is_call (related.isCall_eq.symm.trans is_call) (.inr related)
    | false => exact .map is_call distinct length keys ih
  | choice is_call known length all =>
    have related := Written.choice is_call known length all
    have there := Value.isCall_of_call? is_call
    exact .call (related.isCall_eq.trans there) there (.inr related)

/-- What calls hold that are no choices by name is the same but for names. -/
theorem SameButNames.get?_rel (same : SameButNames config results value other)
    (is_call : value.isCall config = true)
    (silent : ∀ call, other.call? config = some call → ¬ Chooses results call) (key : String) :
    Option.Rel (SameButNames config results) (value.get? key) (other.get? key) := by
  cases same with
  | scalar scalar =>
    rw [Value.isCall_of_isScalar scalar] at is_call
    cases is_call
  | list => cases is_call
  | map data =>
    rw [data] at is_call
    cases is_call
  | call here there related =>
    -- The same call on both sides holds the same; it need not be related by what is written.
    rcases related with ⟨rfl, distinct⟩ | written
    · cases found : value.get? key with
      | none => exact .none
      | some child =>
        refine .some (sameButNames_self ?_)
        exact Value.distinctKeys_of_within (Value.within_of_get? found) distinct
    · obtain ⟨call, found⟩ := Option.isSome_iff_exists.1 there
      obtain ⟨name, argument, rfl⟩ := Value.exists_ofCall_of_call? found
      obtain ⟨also, rfl, ⟨inside, -⟩ | ⟨condition, _, _, rest, chosen, rfl, -, known, -⟩⟩ :=
        written.exists_ofCall found
      · have same : EntryRel (SameButNames config results) (name, also) (name, argument) :=
          ⟨rfl, inside.sameButNames⟩
        exact EntryRel.get?_rel (.cons same .nil) key
      · refine absurd ⟨name, condition, rest, chosen, ?_⟩ (silent call found)
        rw [known]
        rfl

end SameButNames

/-- The entries of the tables look up no condition. -/
def OvertTables (registry : Registry) (scope : Scope) (results : Results) : Prop :=
  ∀ table outer inner entry, Mapping.entry? scope.template table outer inner = some entry →
    entry.DistinctKeys ∧ entry.EveryCall scope.config fun call =>
      ¬ LooksUp results call ∧ call.Overt registry (scope.withResults results) results

/-- What a value with the truth of conditions resolves to, and what it resolves to with their names
when the truth stands among the parameters. -/
abbrev ResolveAlike (registry : Registry) (scope : Scope) (results : Results) (levels : Nat)
    (value other : Value) : Prop :=
  Alike (SameButNames scope.config results) (Resolver.outcome registry scope levels value)
    (Resolver.outcome registry (scope.withResults results) levels other)

section Calls

open Resolver

variable {registry : Registry} {scope : Scope} {results : Results} {levels : Nat}

/-! ## One call -/

/-- Calls by a written name stand side by side with calls by its truth, argument by argument. -/
theorem Written.sideBySide {asked : Nat → Value → Value → Prop} {also arguments : Value}
    (written : Written scope.config results also arguments)
    (each : ∀ items place item other, arguments = .list items → items[place]? = some other →
      other.Within arguments → Written scope.config results item other → asked place item other) :
    Value.SideBySide asked also arguments := by
  cases written with
  | scalar scalar =>
    cases also with
    | list items => exact scalar.elim
    | _ => exact .other rfl rfl
  | @list items others length all =>
    refine .lists length fun place item other found again => ?_
    refine each others place item other rfl again ?_ ?_
    · exact .item (List.mem_of_getElem? again) (.self other)
    · exact all item other (List.mem_of_getElem? (List.getElem?_zip_eq_some.2 ⟨found, again⟩))
  | map => exact .other rfl rfl
  | choice => exact .other rfl rfl

/-- Answers that are the same but for names are read in the same way by an overt call. -/
theorem Overt.reads {name : String} {arguments : Value}
    (overt : Overt registry (scope.withResults results) results name arguments) {place : Nat}
    {answer final : Value} (same : SameButNames scope.config results answer final)
    (found : Answers registry (scope.withResults results) arguments place final) :
    answer.Reads scope.config (SameCall scope.config results) name place final where
  same := same
  equal := by
    intro exactly data
    rw [Value.Matches.isCall_eq same] at data
    exact same.eq (overt.exactly place exactly final found data)
  inline := by
    intro sub data key held last here there known
    cases answer with
    | map entries =>
      obtain ⟨-, others, rfl, all⟩ := (Value.matches_map_iff data).1 same
      obtain ⟨_, again, alike⟩ := EntryRel.get? all here
      cases Option.some.inj (again.symm.trans there)
      rw [Value.Matches.isCall_eq alike] at known
      exact SameButNames.eq alike (overt.inline sub place _ key last found there known)
    | _ => cases here
  projected := by
    rintro projects items others rfl rfl
    obtain ⟨_, listed, all⟩ := Value.matches_list_iff.1 same
    cases listed
    obtain ⟨length, pairs⟩ := List.forall₂_iff_zip.1 all
    refine List.forall₂_iff_zip.2 ⟨length, fun {item last} member is_call key => ?_⟩
    refine SameButNames.get?_rel (pairs member) is_call (fun call here => ?_) key
    exact overt.projected projects place others found last (List.of_mem_zip member).2 call here

section Arguments

variable {key name : String} {also arguments : Value}
  (overt : Overt registry (scope.withResults results) results name arguments)
  (answers : ∀ value other, other.Within arguments → Written scope.config results value other →
    ResolveAlike registry scope results levels value other)
include overt answers

/-- An overt call stands side by side with the one in which names are replaced. -/
theorem alongside_of_written (once : results.Distinct)
    (tables : ∀ table outer inner entry,
      Mapping.entry? scope.template table outer inner = some entry →
        ResolveAlike registry scope results levels entry entry)
    (written : Written scope.config results also arguments) :
    Invocation.Alongside (outcome registry scope levels)
      (outcome registry (scope.withResults results) levels) (SameCall scope.config results) name
      ⟨key, name, also, scope⟩ ⟨key, name, arguments, scope.withResults results⟩ where
  key := rfl
  config := rfl
  whole := answers also arguments (.self _) written
  items := by
    refine Written.sideBySide written fun items place item other listed found inside related => ?_
    refine (answers item other inside related).and_found.imp fun answer final alike => ?_
    exact overt.reads alike.1 ⟨items, other, listed, found, levels, alike.2.2⟩
  tables := by
    intro table outer inner
    change Option.Rel _ (Mapping.entry? scope.template table outer inner)
      (Mapping.entry? scope.template table outer inner)
    cases found : Mapping.entry? scope.template table outer inner with
    | none => exact .none
    | some entry => exact .some (tables table outer inner entry found)
  tokens := by
    intro sub text inline parts written found token member
    refine (overt.tokens sub text inline parts written ⟨levels, found⟩ token member).imp ?_ ?_
    · exact scope.get?_withResults_of_none once
    · rintro ⟨value, here, holds⟩
      exact ⟨value, here, fun entries answered => holds entries ⟨levels, answered⟩⟩
  documents := by
    intro _ text entries key document read found
    exact sameButNames_self (Value.distinctKeys_of_read_object read found)

/-- A choice ends alike if its condition is the same, and is not the name of one with a truth. -/
theorem choose_inStep_of_written (once : results.Distinct) (choice : name = "If")
    (written : Written scope.config results also arguments)
    (silent : ¬ LooksUp results (.function key name arguments)) :
    Program.InStep (outcome registry scope levels)
      (outcome registry (scope.withResults results) levels)
      (Invocation.EndsAlike (SameCall scope.config results) ⟨key, name, also, scope⟩
        ⟨key, name, arguments, scope.withResults results⟩)
      (Logic.choose ⟨key, name, also, scope⟩)
      (Logic.choose ⟨key, name, arguments, scope.withResults results⟩) := by
  refine Logic.choose_inStep rfl (Written.sideBySide written ?_)
  intro items place item other listed found inside related
  have alike := answers item other inside related
  unfold Logic.Choices
  split
  · next first =>
    subst first
    refine alike.and_found.imp fun answer final alike => ?_
    refine Logic.decideAlike_of_matches alike.1 ?_
    rintro text rfl
    have answered : Answers registry (scope.withResults results) arguments 0 (.string text) :=
      ⟨items, other, listed, found, levels, alike.2.2⟩
    refine (scope.get?_withResults_of_none once ?_).symm
    rcases overt.condition choice text answered with unknown | ⟨rest, here⟩
    · exact unknown
    · refine Option.not_isSome_iff_eq_none.1 fun known => silent (.inl ⟨key, text, rest, ?_, known⟩)
      rw [choice, here]
  · exact alike

end Arguments

/-- A choice by the name of a condition ends like the choice by its truth. -/
theorem choose_inStep_of_choice (once : results.Distinct) {key name condition : String}
    {truth : Bool} (known : results.get? condition = some truth) {items others : List Value}
    (written : List.Forall₂ (Written scope.config results) items others)
    (answers : ∀ value, ∀ other ∈ others, Written scope.config results value other →
      ResolveAlike registry scope results levels value other) :
    Program.InStep (outcome registry scope levels)
      (outcome registry (scope.withResults results) levels)
      (Invocation.EndsAlike (SameCall scope.config results)
        ⟨key, name, .list (.bool truth :: items), scope⟩
        ⟨key, name, .list (.string condition :: others), scope.withResults results⟩)
      (Logic.choose ⟨key, name, .list (.bool truth :: items), scope⟩)
      (Logic.choose
        ⟨key, name, .list (.string condition :: others), scope.withResults results⟩) := by
  have decided : (scope.withResults results).parameters.get? condition = some (.bool truth) := by
    rw [scope.get?_withResults once, known]
    rfl
  refine Logic.choose_inStep rfl (.lists (congrArg (· + 1) written.length_eq) ?_)
  intro place item other found again
  unfold Logic.Choices
  cases place with
  | zero =>
    cases found
    cases again
    -- The truth and the name are scalars: one level is enough for both, and none for neither.
    cases levels with
    | zero => exact .failed _ _
    | succ levels =>
      refine .found ⟨rfl, fun _ => ?_⟩
      unfold Logic.conditionTruth
      dsimp only
      rw [decided]
      exact .done rfl
  | succ place =>
    have pair : (item, other) ∈ items.zip others :=
      List.mem_of_getElem? (List.getElem?_zip_eq_some.2 ⟨found, again⟩)
    exact answers item other (List.mem_of_getElem? again) ((List.forall₂_iff_zip.1 written).2 pair)

/-- A reference to what is no condition with a truth finds the same parameter. -/
theorem reference_alike (once : results.Distinct) (plain : scope.parameters.Plain scope.config)
    {value other target : Value} (is_call : other.call? scope.config = some (.reference target))
    (written : Written scope.config results value other) :
    ResolveAlike registry scope results (levels + 1) value other := by
  have there := Value.isCall_of_call? is_call
  have kept : SameButNames scope.config results value other :=
    .call (written.isCall_eq.trans there) there (.inr written)
  obtain ⟨key, argument, rfl⟩ := Value.exists_ofCall_of_call? is_call
  obtain ⟨rfl, reference⟩ := Value.call?_ofCall_reference is_call
  obtain ⟨also, rfl, ⟨inside, silent⟩ | ⟨_, _, _, _, chosen, _⟩⟩ := written.exists_ofCall is_call
  · have again : (Value.ofCall key target).call? (scope.withResults results).config =
      some (.reference target) := is_call
    rw [ResolveAlike, outcome_reference levels (reference also), outcome_reference levels again]
    refine .found ?_
    cases inside with
    | @scalar target scalar =>
      cases target with
      | string name =>
        have unknown : results.get? name = none :=
          Option.not_isSome_iff_eq_none.1 fun known => silent (.inr ⟨name, rfl, known⟩)
        unfold Reference.outcome
        dsimp only
        rw [scope.get?_withResults_of_none once unknown]
        cases found : scope.parameters.get? name with
        | none => exact kept
        | some parameter =>
          obtain ⟨distinct, free⟩ := plain name parameter found
          exact Value.matches_of_containsCall_eq_false distinct free
      | _ => exact kept
    | _ => exact kept
  · cases chosen

/-- The call of a function ends alike, if what it asks for does. -/
theorem function_alike (builtIn : registry.BuiltIn) (once : results.Distinct)
    (tables : ∀ table outer inner entry,
      Mapping.entry? scope.template table outer inner = some entry →
        ResolveAlike registry scope results levels entry entry)
    {value other : Value} {key name : String} {arguments : Value}
    (is_call : other.call? scope.config = some (.function key name arguments))
    (written : Written scope.config results value other)
    (overt : Overt registry (scope.withResults results) results name arguments)
    (answers : ∀ value other, other.Within arguments → Written scope.config results value other →
      ResolveAlike registry scope results levels value other) :
    ResolveAlike registry scope results (levels + 1) value other := by
  have there := Value.isCall_of_call? is_call
  have kept : SameButNames scope.config results value other :=
    .call (written.isCall_eq.trans there) there (.inr written)
  obtain rfl := Value.eq_ofCall_of_call? is_call
  obtain ⟨also, rfl, shape⟩ := written.exists_ofCall is_call
  obtain ⟨-, -, function⟩ := Value.call?_ofCall_function is_call
  have again : (Value.ofCall key arguments).call? (scope.withResults results).config =
    some (.function key name arguments) := is_call
  cases known : registry.function? name with
  | none =>
    rw [ResolveAlike, outcome_unknown levels (function also) known,
      outcome_unknown levels again known]
    exact .found kept
  | some body =>
    rw [ResolveAlike, outcome_function levels (function also) known,
      outcome_function levels again known]
    have ends : Program.InStep (outcome registry scope levels)
        (outcome registry (scope.withResults results) levels)
        (Invocation.EndsAlike (SameCall scope.config results) ⟨key, name, also, scope⟩
          ⟨key, name, arguments, scope.withResults results⟩)
        (body ⟨key, name, also, scope⟩)
        (body ⟨key, name, arguments, scope.withResults results⟩) := by
      rcases shape with ⟨inside, silent⟩ | ⟨condition, truth, items, others, chosen, listed⟩
      · by_cases choice : name = "If"
        · obtain rfl := builtIn.function?_if (choice ▸ known)
          exact choose_inStep_of_written overt answers once choice inside silent
        · exact builtIn.staysInStep known choice _ _ _ _ _
            (alongside_of_written overt answers once tables inside)
      · cases chosen
        obtain ⟨rfl, rfl, held, all⟩ := listed
        obtain rfl := builtIn.function?_if known
        refine choose_inStep_of_choice once held all fun value other member => ?_
        exact answers value other (.item (List.mem_cons_of_mem _ member) (.self other))
    refine Alike.imp ends ?_
    rintro result last (⟨rfl, rfl⟩ | same)
    · exact kept
    · exact same

/-! ## The induction -/

/-- The children of maps that are no calls are resolved alike. -/
theorem map_alike {entries others : Entries Value}
    (data : (Value.map others).isCall scope.config = false) (distinct : entries.Distinct)
    (all : List.Forall₂ (EntryRel (ResolveAlike registry scope results levels)) entries others) :
    ResolveAlike registry scope results (levels + 1) (.map entries) (.map others) := by
  have here : (Value.map entries).isCall scope.config = false := by
    rw [Value.isCall_eq_of_keys_eq (EntryRel.keys_eq all), data]
  have there : (Value.map others).isCall (scope.withResults results).config = false := data
  rw [ResolveAlike, outcome_map levels here, outcome_map levels there]
  have children : Alike (List.Forall₂ (EntryRel (SameButNames scope.config results)))
      (outcomeEntries (outcome registry scope levels) entries)
      (outcomeEntries (outcome registry (scope.withResults results) levels) others) :=
    Alike.mapM (all.imp fun entry other related => related.2.map fun _ _ same =>
      ⟨related.1, same⟩)
  refine children.and_found.map ?_
  rintro answers finals ⟨same, found, -⟩
  have kept := outcomeEntries_eq_ok_iff.1 found
  rw [Value.isCall_eq_of_keys_eq (EntryRel.keys_eq kept)] at here
  exact (Value.matches_map_iff here).2 ⟨EntryRel.distinct kept distinct, finals, rfl, same⟩

/-- **A value with the truth of conditions resolves like the one with their names**, level by
level. -/
theorem outcome_alike (builtIn : registry.BuiltIn) (once : results.Distinct)
    (plain : scope.parameters.Plain scope.config) (tables : OvertTables registry scope results)
    (levels : Nat) {value other : Value} (written : Written scope.config results value other)
    (overt : other.EveryCall scope.config
      (Call.Overt registry (scope.withResults results) results)) :
    ResolveAlike registry scope results levels value other := by
  induction levels generalizing value other with
  | zero => exact .failed _ _
  | succ levels ih =>
    have answers : ∀ value inner, inner.Within other → Written scope.config results value inner →
        ResolveAlike registry scope results levels value inner :=
      fun value inner inside related => ih related (overt.within inside)
    -- The names in a table are not replaced, so an entry is related to itself.
    have entries : ∀ table outer inner entry,
        Mapping.entry? scope.template table outer inner = some entry →
          ResolveAlike registry scope results levels entry entry := by
      intro table outer inner entry found
      obtain ⟨distinct, calls⟩ := tables table outer inner entry found
      exact ih (written_self distinct (calls.imp fun _ => And.left)) (calls.imp fun _ => And.right)
    cases is_call : other.call? scope.config with
    | none =>
      cases other with
      | list others =>
        obtain ⟨items, rfl, all⟩ := written_list_iff.1 written
        change Alike _ (Value.list <$> items.mapM (outcome registry scope levels))
          (Value.list <$> others.mapM (outcome registry (scope.withResults results) levels))
        refine (Alike.mapM ?_).map fun _ _ same => Value.matches_list_iff.2 ⟨_, rfl, same⟩
        obtain ⟨length, pairs⟩ := List.forall₂_iff_zip.1 all
        refine List.forall₂_iff_zip.2 ⟨length, fun {item other} member => ?_⟩
        exact answers item other (.item (List.of_mem_zip member).2 (.self other)) (pairs member)
      | map others =>
        have data := Value.isCall_eq_false_iff.2 is_call
        obtain ⟨entries, rfl, distinct, all⟩ := written.exists_map data
        refine map_alike data distinct ?_
        obtain ⟨length, pairs⟩ := List.forall₂_iff_zip.1 all
        refine List.forall₂_iff_zip.2 ⟨length, fun {entry other} member => ?_⟩
        obtain ⟨key, related⟩ := pairs member
        exact ⟨key, answers entry.2 other.2 (.child (List.of_mem_zip member).2 (.self _)) related⟩
      | _ =>
        obtain rfl := written.eq_of_isScalar trivial
        exact .found (.scalar trivial)
    | some call =>
      cases call with
      | reference target => exact reference_alike once plain is_call written
      | function key name arguments =>
        refine function_alike builtIn once entries is_call written (overt _ (.self _) _ is_call) ?_
        intro value inner inside
        obtain rfl := Value.eq_ofCall_of_call? is_call
        exact answers value inner (.child List.mem_cons_self inside)

end Calls

/-! ## Inside and outside the section of conditions -/

/-- A choice whose condition is the value of a parameter. -/
def chosenChoice : Value :=
  .ofCall "Fn::If" (.list [.ofCall "Ref" (.string "Chosen"), .bool true, .bool false])

/-- The name of a condition that is computed is not replaced, and among the parameters it is found:
however many levels there are, the choice waits in one place and is decided in the other. -/
theorem not_resolve_substitute_chosenChoice :
    let scope : Scope := ⟨Config.standard, [("Chosen", .string "IsProd")], .null⟩
    let results : Results := [("IsProd", true)]
    Confined Config.standard results chosenChoice ∧
      Parameters.Plain Config.standard scope.parameters ∧ chosenChoice ≠ .bool true ∧
      ∃ enough, ∀ depth, enough ≤ depth → ∀ trail after : Trail,
        (Resolver.resolve Registry.standard (scope.withMaxDepth depth)
            (substitute results chosenChoice)).resultFrom trail = .ok chosenChoice ∧
          (Resolver.resolve Registry.standard ((scope.withResults results).withMaxDepth depth)
            chosenChoice).resultFrom after = .ok (.bool true) := by
  intro scope results
  have ignores := Registry.standard_builtIn.ignoresDepth
  have confined : Confined Config.standard results chosenChoice := by
    have text : Confined Config.standard results (.string "Chosen") := by
      refine .scalar trivial fun name same => ?_
      cases same
      rfl
    have truth : ∀ b, Confined Config.standard results (.bool b) := by
      refine fun b => .scalar trivial fun name same => ?_
      cases same
    refine .map (List.forall_mem_singleton.2 (.list ?_))
    simp only [List.forall_mem_cons]
    exact ⟨.map (List.forall_mem_singleton.2 text), truth true, truth false, List.forall_mem_nil _⟩
  have plain : Parameters.Plain Config.standard scope.parameters := by
    intro name value found
    cases List.mem_singleton.1 (Entries.mem_of_get?_eq_some found)
    exact ⟨trivial, rfl⟩
  have same : substitute results chosenChoice = chosenChoice := rfl
  have waits : Resolver.Resolves Registry.standard
      ⟨Config.standard, [("Chosen", .string "IsProd")], .null⟩ chosenChoice chosenChoice := ⟨2, rfl⟩
  have decides : Resolver.Resolves Registry.standard
      ⟨Config.standard, [("Chosen", .string "IsProd"), ("IsProd", .bool true)], .null⟩ chosenChoice
      (.bool true) := ⟨2, rfl⟩
  obtain ⟨enough, here⟩ := waits.eventually ignores
  obtain ⟨more, there⟩ := decides.eventually ignores
  refine ⟨confined, plain, nofun, max enough more, fun depth reached trail after => ⟨?_, ?_⟩⟩
  · rw [same]
    exact here depth (le_trans (le_max_left enough more) reached) trail
  · exact there depth (le_trans (le_max_right enough more) reached) after

/-- **A condition means the same inside the section of conditions and outside of it.** An expression
that names conditions in choices only, and looks them up only there, resolves with their truth in
the place of the names like it does with the names, when the truth stands among the parameters: both
fail, or the values are the same but for choices that wait. So they are equal if none does. -/
theorem resolve_substitute {registry : Registry} (builtIn : registry.BuiltIn) (scope : Scope)
    (plain : scope.parameters.Plain scope.config) {results : Results} (once : results.Distinct)
    (tables : OvertTables registry scope results) {expression : Value}
    (distinct : expression.DistinctKeys) (confined : Confined scope.config results expression)
    (overt : expression.EveryCall scope.config
      (Call.Overt registry (scope.withResults results) results)) (trail after : Trail) :
    Alike
      (fun value other => SameButNames scope.config results value other ∧
        (Nameless scope.config results other → value = other))
      ((Resolver.resolve registry scope (substitute results expression)).resultFrom trail)
      ((Resolver.resolve registry (scope.withResults results) expression).resultFrom after) := by
  rw [Resolver.resolve_yields registry scope _ trail,
    Resolver.resolve_yields registry (scope.withResults results) expression after]
  have alike := outcome_alike builtIn once plain tables scope.config.maxDepth
    (confined.written_substitute distinct) overt
  exact alike.imp fun value other same => ⟨same, same.eq⟩

/-- A size, and a choice that waits for a parameter. -/
def sizeAndWait (head size : Value) : Value :=
  .list [size, .ofCall "Fn::Not" (.list [.ofCall "Fn::If" (.list [head,
    .ofCall "Ref" (.string "Later"), .bool false])])]

/-- The size by the name of a condition. -/
def sizeByName : Value :=
  sizeAndWait (.string "IsProd")
    (.ofCall "Fn::If" (.list [.string "IsProd", .string "large", .string "small"]))

theorem sizeByName_confined :
    Confined Config.standard [("IsProd", true)] sizeByName := by
  have text : ∀ name : String, name ≠ "IsProd" →
      Confined Config.standard [("IsProd", true)] (.string name) := by
    refine fun name other => .scalar trivial fun same equal => ?_
    cases equal
    rw [Entries.get?_cons, if_neg other.symm, Entries.get?_nil]
  have truth : Confined Config.standard [("IsProd", true)] (.bool false) :=
    .scalar trivial fun name same => by cases same
  have later : Confined Config.standard [("IsProd", true)] (.ofCall "Ref" (.string "Later")) :=
    .map (List.forall_mem_singleton.2 (text "Later" (by decide)))
  refine .list (List.forall_mem_cons.2 ⟨.choice rfl ?_, List.forall_mem_singleton.2 ?_⟩)
  · simp only [List.forall_mem_cons]
    exact ⟨text "large" (by decide), text "small" (by decide), List.forall_mem_nil _⟩
  · refine .map (List.forall_mem_singleton.2 (.list (List.forall_mem_singleton.2 ?_)))
    refine .choice rfl ?_
    simp only [List.forall_mem_cons]
    exact ⟨later, truth, List.forall_mem_nil _⟩

theorem sizeByName_overt (scope : Scope) :
    sizeByName.EveryCall Config.standard
      (Call.Overt Registry.standard scope [("IsProd", true)]) := by
  have scalar : ∀ value : Value, value.IsScalar → value.EveryCall Config.standard
      (Call.Overt Registry.standard scope [("IsProd", true)]) :=
    fun value scalar => .of_isScalar scalar
  refine .list (List.forall_mem_cons.2 ⟨?_, List.forall_mem_singleton.2 ?_⟩)
  · refine .ofCall rfl (overt_if_of_isScalar (.string "IsProd") trivial _) (.list ?_)
    simp only [List.forall_mem_cons]
    exact ⟨scalar _ trivial, scalar _ trivial, scalar _ trivial, List.forall_mem_nil _⟩
  · refine .ofCall rfl (overt_of_exactPlaces_eq_nil (by decide) rfl _)
      (.list (List.forall_mem_singleton.2 ?_))
    refine .ofCall rfl (overt_if_of_isScalar (.string "IsProd") trivial _) (.list ?_)
    simp only [List.forall_mem_cons]
    exact ⟨scalar _ trivial, .ofCall rfl trivial (scalar _ trivial), scalar _ trivial,
      List.forall_mem_nil _⟩

/-- The size is the same in both places, and the choice waits with the truth and with the name. -/
theorem resolve_substitute_sizeByName :
    let scope : Scope := ⟨Config.standard, [], .null⟩
    let results : Results := [("IsProd", true)]
    (Resolver.resolve Registry.standard scope (substitute results sizeByName)).resultFrom {} =
        .ok (sizeAndWait (.bool true) (.string "large")) ∧
      (Resolver.resolve Registry.standard (scope.withResults results) sizeByName).resultFrom {} =
        .ok (sizeAndWait (.string "IsProd") (.string "large")) ∧
      SameButNames Config.standard results (sizeAndWait (.bool true) (.string "large"))
        (sizeAndWait (.string "IsProd") (.string "large")) := by
  intro scope results
  have plain : Parameters.Plain Config.standard [] := by
    intro name value found
    cases found
  have tables : OvertTables Registry.standard scope results := by
    intro table outer inner entry found
    cases found
  have once : results.Distinct := List.nodup_cons.2 ⟨List.not_mem_nil, List.nodup_nil⟩
  have distinct : sizeByName.DistinctKeys := by
    simp [sizeByName, sizeAndWait, Value.ofCall, Value.DistinctKeys, Value.DistinctKeysOfItems,
      Value.DistinctKeysOfEntries, Entries.Distinct, Entries.keys]
  have alike := resolve_substitute Registry.standard_builtIn scope plain once tables distinct
    sizeByName_confined (sizeByName_overt _) {} {}
  have here : (Resolver.resolve Registry.standard scope (substitute results sizeByName)).resultFrom
      {} = .ok (sizeAndWait (.bool true) (.string "large")) := by
    rw [Resolver.resolve_yields]
    dsimp only [scope, results]
    rfl
  have there : (Resolver.resolve Registry.standard (scope.withResults results)
      sizeByName).resultFrom {} = .ok (sizeAndWait (.string "IsProd") (.string "large")) := by
    rw [Resolver.resolve_yields]
    dsimp only [scope, results]
    rfl
  rw [here, there] at alike
  cases alike with
  | found same => exact ⟨here, there, same.1⟩

end Condition

end CloudTemplate

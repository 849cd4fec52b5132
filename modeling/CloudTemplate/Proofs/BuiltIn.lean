import CloudTemplate.Proofs.Levels
import CloudTemplate.Proofs.Agreement

/-!
# The built-in functions

A registry is built in when each of its functions is the standard one of that name; the standard
registry is, and so is one with some groups only.

Most built-in functions look at nothing of their scope but the settings
(`Function.LooksAtSettings`). A choice also looks a parameter up, a substitution several, and
`FindInMap` an entry of a table. All of them do the same in scopes that agree
(`Registry.BuiltIn.respects`). Which levels are left is the resolver's business alone: no built-in
function looks at the configured maximum (`Registry.BuiltIn.ignoresDepth`).
-/

set_option autoImplicit false

namespace CloudTemplate

/-- Every function of the registry is the standard one of its name. -/
def Registry.BuiltIn (registry : Registry) : Prop :=
  ∀ name function, registry.function? name = some function →
    Registry.standard.function? name = some function

theorem Registry.standard_builtIn : Registry.standard.BuiltIn :=
  fun _ _ found => found

/-- The functions of all groups, by their names. -/
theorem Registry.standard_definitions :
    Registry.standard.definitions =
      (groups.flatMap group).map fun definition => (definition.signature.name, definition) := rfl

/-- A built-in function is defined in one of the groups. -/
theorem Registry.BuiltIn.exists_definition {registry : Registry} (builtIn : registry.BuiltIn)
    {name : String} {function : Function} (found : registry.function? name = some function) :
    ∃ category, ∃ definition ∈ group category,
      definition.signature.name = name ∧ definition.function = function := by
  have standard := builtIn name function found
  unfold Registry.function? at standard
  obtain ⟨definition, known, rfl⟩ := Option.map_eq_some_iff.1 standard
  have entry := Entries.mem_of_get?_eq_some known
  rw [standard_definitions] at entry
  obtain ⟨member, listed, same⟩ := List.mem_map.1 entry
  cases same
  obtain ⟨category, -, grouped⟩ := List.mem_flatMap.1 listed
  exact ⟨category, definition, grouped, rfl, rfl⟩

/-! ## Other scopes -/

/-- The invocation with other parameters and another template, and with another maximum of
levels. -/
def Invocation.elsewhere (call : Invocation) (depth : Nat) (parameters : Parameters)
    (template : Value) : Invocation :=
  call.inScope ⟨{ call.scope.config with maxDepth := depth }, parameters, template⟩

/-- The function looks at nothing of its scope but the settings. -/
def Function.LooksAtSettings (function : Function) : Prop :=
  ∀ call depth parameters template,
    function (Invocation.elsewhere call depth parameters template) = function call

/-- Scopes that agree have the same settings. -/
theorem Scope.Agrees.inScope_eq {call : Invocation} {other : Scope}
    (agrees : call.scope.Agrees other) :
    ∃ depth, call.inScope other = call.elsewhere depth other.parameters other.template := by
  obtain ⟨depth, settings⟩ := agrees.settings
  refine ⟨depth, ?_⟩
  unfold Invocation.elsewhere
  rw [← settings]

theorem Function.LooksAtSettings.respects {function : Function}
    (looks : function.LooksAtSettings) : function.Respects := by
  intro call other agrees
  obtain ⟨depth, same⟩ := agrees.inScope_eq
  rw [same]
  exact looks call depth other.parameters other.template

/-- A scope with another maximum of levels agrees with the scope. -/
theorem Scope.agrees_withMaxDepth (scope : Scope) (depth : Nat) :
    scope.Agrees (scope.withMaxDepth depth) where
  settings := ⟨depth, rfl⟩
  parameters := fun _ => rfl
  tables := fun _ _ _ => rfl

theorem Function.Respects.ignoresDepth {function : Function} (respects : function.Respects) :
    function.IgnoresDepth :=
  fun call depth => respects call _ (call.scope.agrees_withMaxDepth depth)

/-! ## Which values are calls -/

mutual
/-- Which values contain a call depends only on which are calls. -/
theorem Value.containsCall_congr {config other : Config}
    (same : ∀ value : Value, value.isCall config = value.isCall other) :
    ∀ value : Value, value.containsCall config = value.containsCall other
  | .list items => by
      simp only [containsCall]
      exact itemsContainCall_congr same items
  | .map entries => by
      simp only [containsCall]
      rw [same, entriesContainCall_congr same entries]
  | .null | .bool _ | .int _ | .float _ | .string _ => rfl

theorem Value.itemsContainCall_congr {config other : Config}
    (same : ∀ value : Value, value.isCall config = value.isCall other) :
    ∀ items : List Value, itemsContainCall config items = itemsContainCall other items
  | [] => rfl
  | item :: items => by
      simp only [itemsContainCall]
      rw [containsCall_congr same item, itemsContainCall_congr same items]

theorem Value.entriesContainCall_congr {config other : Config}
    (same : ∀ value : Value, value.isCall config = value.isCall other) :
    ∀ entries : List (String × Value),
      entriesContainCall config entries = entriesContainCall other entries
  | [] => rfl
  | (_, child) :: entries => by
      simp only [entriesContainCall]
      rw [containsCall_congr same child, entriesContainCall_congr same entries]
end

/-! ## What the functions look at -/

section Elsewhere

variable (call : Invocation) (depth : Nat) (parameters : Parameters) (template : Value)

theorem Invocation.containsCall_elsewhere :
    (call.elsewhere depth parameters template).containsCall = call.containsCall :=
  funext (Value.containsCall_congr fun _ => rfl)

theorem Invocation.allKnown_elsewhere (values : List Value) (next : List Value → Program Value) :
    (call.elsewhere depth parameters template).allKnown values next =
      call.allKnown values next := by
  induction values generalizing next with
  | nil => rfl
  | cons value values ih =>
    simp only [allKnown]
    exact congrArg (call.known value) (funext fun first => ih fun others => next (first :: others))

theorem Math.numbers_elsewhere (values : List Value) :
    Math.numbers (call.elsewhere depth parameters template) values = Math.numbers call values := by
  induction values with
  | nil => rfl
  | cons value values ih =>
    simp only [Math.numbers]
    rw [ih]
    rfl

theorem Math.fold_looksAtSettings (fewest : Nat) (compute : List Float → Float) :
    Function.LooksAtSettings (Math.fold fewest compute) := by
  intro call depth parameters template
  have inner : ∀ values : List Value,
      (do
        let numbers ← Math.numbers (call.elsewhere depth parameters template) values
        Math.finite (call.elsewhere depth parameters template) (compute numbers)) =
      (do
        let numbers ← Math.numbers call values
        Math.finite call (compute numbers)) := by
    intro values
    rw [numbers_elsewhere]
    rfl
  unfold Math.fold
  refine congrArg (Program.bind (call.atLeast fewest)) (funext fun arguments => ?_)
  rw [Invocation.allKnown_elsewhere]
  exact congrArg (call.allKnown arguments) (funext inner)

theorem Math.definitions_respect :
    ∀ definition ∈ Math.definitions, Function.Respects definition.function := by
  have calculate : Function.LooksAtSettings Math.calculate := fun _ _ _ _ => rfl
  simp only [Math.definitions, List.forall_mem_cons]
  exact ⟨(fold_looksAtSettings 2 sum).respects, (fold_looksAtSettings 1 mean).respects,
    (fold_looksAtSettings 1 greatest).respects, (fold_looksAtSettings 1 least).respects,
    calculate.respects, List.forall_mem_nil _⟩

theorem Logic.shortCircuit_elsewhere (decisive : Bool) (operands : List Value) :
    Logic.shortCircuit (call.elsewhere depth parameters template) decisive operands =
      Logic.shortCircuit call decisive operands := by
  induction operands with
  | nil => rfl
  | cons operand operands ih =>
    simp only [Logic.shortCircuit, ih]
    rfl

theorem Logic.and_looksAtSettings : Function.LooksAtSettings Logic.and := by
  intro call depth parameters template
  unfold Logic.and
  simp only [shortCircuit_elsewhere]
  rfl

theorem Logic.or_looksAtSettings : Function.LooksAtSettings Logic.or := by
  intro call depth parameters template
  unfold Logic.or
  simp only [shortCircuit_elsewhere]
  rfl

theorem Collection.appendLists_elsewhere (collected arguments : List Value) :
    Collection.appendLists (call.elsewhere depth parameters template) collected arguments =
      Collection.appendLists call collected arguments := by
  induction arguments generalizing collected with
  | nil => rfl
  | cons argument arguments ih =>
    simp only [Collection.appendLists, ih]
    rfl

theorem Collection.project_elsewhere (key : String) (items : List Value) :
    Collection.project (call.elsewhere depth parameters template) key items =
      Collection.project call key items := by
  induction items with
  | nil => rfl
  | cons item items ih =>
    cases item with
    | map entries => simp only [Collection.project, ih]
    | _ => rfl

theorem Collection.definitions_respect :
    ∀ definition ∈ Collection.definitions, Function.Respects definition.function := by
  have select : Function.LooksAtSettings Collection.select := fun _ _ _ _ => rfl
  have index : Function.LooksAtSettings Collection.index := fun _ _ _ _ => rfl
  have length : Function.LooksAtSettings Collection.length := fun _ _ _ _ => rfl
  have listMerge : Function.LooksAtSettings Collection.listMerge := by
    intro call depth parameters template
    unfold Collection.listMerge
    simp only [appendLists_elsewhere]
    rfl
  have selectMapList : Function.LooksAtSettings Collection.selectMapList := by
    intro call depth parameters template
    unfold Collection.selectMapList
    simp only [project_elsewhere]
    rfl
  simp only [Collection.definitions, List.forall_mem_cons]
  exact ⟨select.respects, index.respects, length.respects, listMerge.respects,
    selectMapList.respects, List.forall_mem_nil _⟩

theorem Mapping.mergeItems_elsewhere (targets : List (Entries Value)) (items : List Value) :
    Mapping.mergeItems (call.elsewhere depth parameters template) targets items =
      Mapping.mergeItems call targets items := by
  induction targets generalizing items with
  | nil => rfl
  | cons target targets ih =>
    cases items with
    | nil => rfl
    | cons item items =>
      simp only [Mapping.mergeItems, ih]
      rfl

theorem Mapping.mergeLists_elsewhere (merged : List (Entries Value)) (lists : List Value) :
    Mapping.mergeLists (call.elsewhere depth parameters template) merged lists =
      Mapping.mergeLists call merged lists := by
  induction lists generalizing merged with
  | nil => rfl
  | cons list lists ih =>
    simp only [Mapping.mergeLists, ih, mergeItems_elsewhere]
    rfl

theorem Mapping.merge_elsewhere (lists : List Value) :
    Mapping.merge (call.elsewhere depth parameters template) lists = Mapping.merge call lists := by
  cases lists with
  | nil => rfl
  | cons list lists =>
    simp only [Mapping.merge, mergeLists_elsewhere]
    rfl

end Elsewhere

section Lookups

variable {call : Invocation} {other : Scope} (agrees : call.scope.Agrees other)
include agrees

theorem Logic.conditionTruth_inScope (condition : Value) :
    Logic.conditionTruth (call.inScope other) condition = Logic.conditionTruth call condition := by
  cases condition with
  | string name =>
    unfold Logic.conditionTruth
    dsimp only [Invocation.inScope]
    rw [agrees.parameters name]
  | _ => rfl

theorem Substitution.value?_inScope (inline : Entries Value) (name : List Char) :
    Substitution.value? (call.inScope other) inline name =
      Substitution.value? call inline name := by
  obtain ⟨depth, same⟩ := agrees.inScope_eq
  have is_call : ∀ value, (call.inScope other).isCall value = call.isCall value := by
    rw [same]
    exact fun _ => rfl
  unfold Substitution.value?
  simp only [is_call]
  dsimp only [Invocation.inScope]
  rw [agrees.parameters]

theorem Substitution.substitute_inScope (inline : Entries Value)
    (pieces : List Substitution.Piece) :
    Substitution.substitute (call.inScope other) inline pieces =
      Substitution.substitute call inline pieces := by
  have static : ∀ name, isStatic (call.inScope other).scope.config name =
      isStatic call.scope.config name := by
    obtain ⟨depth, same⟩ := agrees.inScope_eq
    rw [same]
    exact fun _ => rfl
  induction pieces with
  | nil => rfl
  | cons piece pieces ih =>
    cases piece with
    | plain c => simp only [Substitution.substitute, ih]
    | escape name => simp only [Substitution.substitute, ih]
    | name name =>
      simp only [Substitution.substitute, ih, value?_inScope agrees, static]
      rfl

end Lookups

/-- A choice looks a parameter up that a text names. -/
theorem Logic.choose_respects : Function.Respects Logic.choose := by
  intro call other agrees
  obtain ⟨depth, same⟩ := agrees.inScope_eq
  unfold Logic.choose
  simp only [conditionTruth_inScope agrees]
  rw [same]
  rfl

theorem Logic.definitions_respect :
    ∀ definition ∈ Logic.definitions, Function.Respects definition.function := by
  have not : Function.LooksAtSettings Logic.not := fun _ _ _ _ => rfl
  have any : Function.LooksAtSettings Logic.any := fun _ _ _ _ => rfl
  have contains : Function.LooksAtSettings Logic.contains := fun _ _ _ _ => rfl
  have eachMemberIn : Function.LooksAtSettings Logic.eachMemberIn := fun _ _ _ _ => rfl
  have equals : Function.LooksAtSettings Logic.equals := fun _ _ _ _ => rfl
  simp only [Logic.definitions, List.forall_mem_cons]
  exact ⟨and_looksAtSettings.respects, or_looksAtSettings.respects, not.respects, any.respects,
    contains.respects, eachMemberIn.respects, equals.respects, choose_respects,
    List.forall_mem_nil _⟩

/-- A substitution looks the parameters up that its tokens name. -/
theorem Substitution.sub_respects : Function.Respects Substitution.sub := by
  intro call other agrees
  obtain ⟨depth, same⟩ := agrees.inScope_eq
  unfold Substitution.sub
  simp only [substitute_inScope agrees]
  rw [same]
  rfl

theorem Strings.definitions_respect :
    ∀ definition ∈ Strings.definitions, Function.Respects definition.function := by
  have join : Function.LooksAtSettings Strings.join := by
    intro call depth parameters template
    unfold Strings.join
    rw [call.containsCall_elsewhere depth parameters template]
    rfl
  have replace : Function.LooksAtSettings Strings.replace := by
    intro call depth parameters template
    unfold Strings.replace
    rw [call.containsCall_elsewhere depth parameters template]
    rfl
  have base64Encode : Function.LooksAtSettings Strings.base64Encode := by
    intro call depth parameters template
    unfold Strings.base64Encode Invocation.unlessCall
    rw [call.containsCall_elsewhere depth parameters template]
    rfl
  have str : Function.LooksAtSettings Strings.str := by
    intro call depth parameters template
    unfold Strings.str Invocation.unlessCall
    rw [call.containsCall_elsewhere depth parameters template]
    rfl
  have split : Function.LooksAtSettings Strings.split := fun _ _ _ _ => rfl
  have base64Decode : Function.LooksAtSettings Strings.base64Decode := fun _ _ _ _ => rfl
  have indent : Function.LooksAtSettings Strings.indent := fun _ _ _ _ => rfl
  have matchPattern : Function.LooksAtSettings Strings.matchPattern := fun _ _ _ _ => rfl
  simp only [Strings.definitions, List.forall_mem_cons]
  exact ⟨join.respects, split.respects, Substitution.sub_respects, base64Encode.respects,
    base64Decode.respects, str.respects, indent.respects, replace.respects,
    matchPattern.respects, List.forall_mem_nil _⟩

/-- `FindInMap` looks an entry of a table up. -/
theorem Mapping.findInMap_respects : Function.Respects Mapping.findInMap := by
  intro call other agrees
  obtain ⟨depth, same⟩ := agrees.inScope_eq
  have tables : ∀ table outer inner,
      entry? (call.inScope other).scope.template table outer inner =
        entry? call.scope.template table outer inner := agrees.tables
  unfold Mapping.findInMap
  simp only [tables]
  rw [same]
  rfl

theorem Mapping.definitions_respect :
    ∀ definition ∈ Mapping.definitions, Function.Respects definition.function := by
  have getJsonValue : Function.LooksAtSettings Mapping.getJsonValue := fun _ _ _ _ => rfl
  have mergeMapToList : Function.LooksAtSettings Mapping.mergeMapToList := by
    intro call depth parameters template
    unfold Mapping.mergeMapToList
    simp only [merge_elsewhere, Invocation.allKnown_elsewhere]
    rfl
  simp only [Mapping.definitions, List.forall_mem_cons]
  exact ⟨findInMap_respects, getJsonValue.respects, mergeMapToList.respects,
    List.forall_mem_nil _⟩

/-- **Built-in functions do the same in scopes that agree.** -/
theorem Registry.BuiltIn.respects {registry : Registry} (builtIn : registry.BuiltIn) :
    registry.Respects := by
  intro name function found
  obtain ⟨category, definition, grouped, -, rfl⟩ := builtIn.exists_definition found
  cases category with
  | math => exact Math.definitions_respect definition grouped
  | logic => exact Logic.definitions_respect definition grouped
  | string => exact Strings.definitions_respect definition grouped
  | collection => exact Collection.definitions_respect definition grouped
  | mapping => exact Mapping.definitions_respect definition grouped

/-- No built-in function looks at the maximum of levels. -/
theorem Registry.BuiltIn.ignoresDepth {registry : Registry} (builtIn : registry.BuiltIn) :
    registry.IgnoresDepth :=
  fun name function found => (builtIn.respects name function found).ignoresDepth

end CloudTemplate

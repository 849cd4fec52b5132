import CloudTemplate.Proofs.Origin.Known

/-!
# Which functions keep calls

Most functions end with a scalar, or keep their own call, and a list of texts has no calls either.
A choice and the look-up in a table have a value resolved, and selecting an item, appending lists
and projecting maps take their results out of values with known calls. Merging maps is the one place
where maps are put together. Maps that are no calls give none when they are merged, and what stands
in the merged map stood in one of them (`Mapping.Merged.merge`).

Only `GetJsonValue` makes values out of texts, and those may hold calls that stand nowhere else. All
other built-in functions keep calls (`Registry.BuiltIn.keepsCalls`). Four of them may keep their own
call because a text says nothing yet: a choice, a substitution, an arithmetic expression and a
look-up. The rest defer only for a call among their answers (`Registry.BuiltIn.defersForCalls`).
-/

set_option autoImplicit false

namespace CloudTemplate

variable {call : Invocation} {asked known : Value → Prop}

/-! ## Functions on numbers -/

namespace Math

theorem isScalar_ofNumber (x : Float) : (Value.ofNumber x).IsScalar := by
  unfold Value.ofNumber
  split
  · split <;> trivial
  · trivial

theorem keeps_finite (result : Float) :
    call.Keeps asked known (Value.CallsFrom call.scope.config known) (finite call result) := by
  unfold finite
  split
  · exact call.keeps_scalar asked known (isScalar_ofNumber result)
  · trivial

theorem keeps_numbers (values : List Value) :
    call.Keeps asked known (fun _ => True) (numbers call values) := by
  induction values with
  | nil => trivial
  | cons value values ih =>
    unfold numbers
    cases value.asFloat? with
    | none => trivial
    | some number => exact ih.bind fun _ _ => trivial

theorem fold_defersForCalls (fewest : Nat) (compute : List Float → Float) :
    Function.DefersForCalls (fold fewest compute) := by
  intro call asked known supplied
  refine (Invocation.keeps_atLeast supplied fewest).bind fun arguments permitted => ?_
  refine Invocation.keeps_allKnown supplied permitted fun answers _ => ?_
  exact (keeps_numbers answers).bind fun numbers _ => keeps_finite (compute numbers)

/-- A text that is no arithmetic expression is kept without a call in it. -/
theorem calculate_keepsCalls : Function.KeepsCalls calculate := by
  intro call asked known sourced
  refine Invocation.keeps_known sourced.supplied sourced.arguments fun answer _ _ => ?_
  refine (call.keeps_expectText asked known "expression" answer).bind fun text _ => ?_
  cases Arithmetic.evaluate text with
  | ok result => exact keeps_finite result
  | error fault =>
    cases fault with
    | divisionByZero => trivial
    | moduloByZero => trivial
    | _ => exact sourced.node

end Math

/-! ## Functions on truth -/

namespace Logic

theorem keeps_shortCircuit (supplied : call.Supplied asked known) (decisive : Bool)
    {operands : List Value}
    (permitted : ∀ operand ∈ operands, asked operand) :
    call.Keeps asked known (Value.CallsFrom call.scope.config known)
      (shortCircuit call decisive operands) := by
  induction operands with
  | nil => exact call.keeps_scalar asked known trivial
  | cons operand operands ih =>
    obtain ⟨here, others⟩ := List.forall_mem_cons.1 permitted
    refine Invocation.keeps_known supplied here fun answer _ _ => ?_
    refine (call.keeps_expectTruth asked known answer).bind fun truth _ => ?_
    split
    · exact call.keeps_scalar asked known trivial
    · exact ih others

theorem and_defersForCalls : Function.DefersForCalls Logic.and := by
  intro call asked known supplied
  exact (Invocation.keeps_atLeast supplied 1).bind fun _ permitted =>
    keeps_shortCircuit supplied false permitted

theorem or_defersForCalls : Function.DefersForCalls Logic.or := by
  intro call asked known supplied
  exact (Invocation.keeps_atLeast supplied 1).bind fun _ permitted =>
    keeps_shortCircuit supplied true permitted

theorem not_defersForCalls : Function.DefersForCalls Logic.not := by
  intro call asked known supplied
  refine (Invocation.keeps_oneArgument supplied).bind fun operand permitted => ?_
  refine Invocation.keeps_known supplied permitted fun answer _ _ => ?_
  exact (call.keeps_expectTruth asked known answer).bind fun _ _ =>
    call.keeps_scalar asked known trivial

theorem any_defersForCalls : Function.DefersForCalls Logic.any := by
  intro call asked known supplied
  refine (Invocation.keeps_oneArgument supplied).bind fun argument permitted => ?_
  refine Invocation.keeps_known supplied permitted fun answer all _ => ?_
  refine (call.keeps_expectList asked known "values" all).bind fun items inside => ?_
  split
  · next unknown =>
    obtain ⟨item, member, is_call⟩ := List.any_eq_true.1 unknown
    exact Invocation.keeps_keep supplied (inside item member) (Value.containsCall_of_isCall is_call)
  · have decided : call.Keeps asked known (fun _ => True) (Program.ofExcept (anyTrue items)) :=
      .ofExcept fun _ _ => trivial
    exact decided.bind fun _ _ => call.keeps_scalar asked known trivial

theorem contains_defersForCalls : Function.DefersForCalls Logic.contains := by
  intro call asked known supplied
  refine (Invocation.keeps_twoArguments supplied).bind fun arguments permitted => ?_
  refine Invocation.keeps_bothKnown supplied permitted fun list value all _ => ?_
  exact (call.keeps_expectList asked known "list" all).bind fun _ _ =>
    call.keeps_scalar asked known trivial

theorem eachMemberIn_defersForCalls : Function.DefersForCalls Logic.eachMemberIn := by
  intro call asked known supplied
  refine (Invocation.keeps_twoArguments supplied).bind fun arguments permitted => ?_
  refine Invocation.keeps_bothKnown supplied permitted fun members allowed all others => ?_
  refine (call.keeps_expectList asked known "members" all).bind fun _ _ => ?_
  exact (call.keeps_expectList asked known "universe" others).bind fun _ _ =>
    call.keeps_scalar asked known trivial

theorem equals_defersForCalls : Function.DefersForCalls Logic.equals := by
  intro call asked known supplied
  refine (Invocation.keeps_twoArguments supplied).bind fun arguments permitted => ?_
  exact Invocation.keeps_bothKnown supplied permitted fun _ _ _ _ =>
    call.keeps_scalar asked known trivial

theorem keeps_conditionTruth (condition : Value) :
    call.Keeps asked known (fun _ => True) (conditionTruth call condition) := by
  have read : ∀ value, call.Keeps asked known (fun _ => True) (do
      let truth ← Invocation.expectTruth value
      pure (some truth)) :=
    fun value => (call.keeps_expectTruth asked known value).bind fun _ _ => trivial
  cases condition with
  | bool truth => trivial
  | string name =>
    unfold conditionTruth
    dsimp only
    cases call.scope.parameters.get? name with
    | none => trivial
    | some value => exact read value
  | _ => exact read _

/-- A choice has the value resolved that it chooses. It is kept for a text that names nothing. -/
theorem choose_keepsCalls : Function.KeepsCalls Logic.choose := by
  intro call asked known sourced
  have supplied := sourced.supplied
  refine (Invocation.keeps_threeArguments supplied).bind fun arguments permitted => ?_
  refine Invocation.keeps_known supplied permitted.1 fun answer _ _ => ?_
  refine (keeps_conditionTruth answer).bind fun decided _ => ?_
  cases decided with
  | none => exact sourced.node
  | some truth =>
    refine .resolved ?_
    cases truth with
    | true => exact permitted.2.1
    | false => exact permitted.2.2

end Logic

/-! ## Functions on texts -/

namespace Substitution

/-- The text and the variables stand among the arguments. -/
theorem keeps_arguments (supplied : call.Supplied asked known) : call.Keeps asked known
    (fun found => asked found.1 ∧
      ∀ inline, found.2 = some inline → asked inline)
    (arguments call) := by
  have all := supplied.arguments
  unfold arguments
  split
  · next text listed =>
    rw [listed] at all
    exact ⟨supplied.items _ all text (by simp), nofun⟩
  · next text inline listed =>
    rw [listed] at all
    refine ⟨supplied.items _ all text (by simp), fun other same => ?_⟩
    cases same
    exact supplied.items _ all inline (by simp)
  · trivial
  · exact ⟨all, nofun⟩

theorem keeps_withInline (supplied : call.Supplied asked known) {inline : Option Value}
    (permitted : ∀ value, inline = some value → asked value)
    {next : Entries Value → Program Value}
    (rest : ∀ entries,
      call.Keeps asked known (Value.CallsFrom call.scope.config known) (next entries)) :
    call.Keeps asked known (Value.CallsFrom call.scope.config known)
      (withInline call inline next) := by
  cases inline with
  | none => exact rest []
  | some value =>
    refine Invocation.keeps_known supplied (permitted value rfl) fun answer all _ => ?_
    exact (call.keeps_expectMap asked known "variables" all).bind fun entries _ => rest entries

/-- A substitution is kept for a name without a value. -/
theorem sub_keepsCalls : Function.KeepsCalls sub := by
  intro call asked known sourced
  have supplied := sourced.supplied
  refine (keeps_arguments supplied).bind fun found permitted => ?_
  refine Invocation.keeps_known supplied permitted.1 fun template _ _ => ?_
  refine (call.keeps_expectText asked known "template" template).bind fun text _ => ?_
  refine keeps_withInline supplied permitted.2 fun inline => ?_
  refine (call.keeps_compiled asked known tokenPattern).bind fun _ _ => ?_
  cases substitute call inline (pieces text.toList) with
  | ok result => exact call.keeps_scalar asked known trivial
  | error line => exact sourced.node

end Substitution

namespace Strings

theorem join_defersForCalls : Function.DefersForCalls join := by
  intro call asked known supplied
  refine (Invocation.keeps_twoArguments supplied).bind fun arguments permitted => ?_
  refine Invocation.keeps_bothKnown supplied permitted fun delimiter list _ all => ?_
  refine (call.keeps_expectList asked known "values" all).bind fun parts inside => ?_
  split
  · next unknown =>
    obtain ⟨part, member, contains⟩ := List.any_eq_true.1 unknown
    exact Invocation.keeps_keep supplied (inside part member) contains
  · exact call.keeps_scalar asked known trivial

/-- The list of the parts has no calls, because all of them are texts. -/
theorem split_defersForCalls : Function.DefersForCalls split := by
  intro call asked known supplied
  refine (Invocation.keeps_twoArguments supplied).bind fun arguments permitted => ?_
  refine Invocation.keeps_bothKnown supplied permitted fun delimiter source _ _ => ?_
  refine (call.keeps_expectText asked known "delimiter" delimiter).bind fun text _ => ?_
  refine Value.CallsFrom.list fun item member => ?_
  obtain ⟨part, _, rfl⟩ := List.mem_map.1 member
  exact .of_isScalar trivial

theorem keeps_unlessCall (supplied : call.Supplied asked known) {value result : Value}
    (all : value.CallsFrom call.scope.config known) (scalar : result.IsScalar) :
    call.Keeps asked known (Value.CallsFrom call.scope.config known)
      (call.unlessCall value (pure result)) := by
  unfold Invocation.unlessCall
  split
  · next unknown => exact Invocation.keeps_keep supplied all unknown
  · exact call.keeps_scalar asked known scalar

theorem base64Encode_defersForCalls : Function.DefersForCalls base64Encode := by
  intro call asked known supplied
  refine (Program.Ensures.resolved supplied.arguments).bind fun value all => ?_
  exact keeps_unlessCall supplied all trivial

theorem base64Decode_defersForCalls : Function.DefersForCalls base64Decode := by
  intro call asked known supplied
  refine Invocation.keeps_known supplied supplied.arguments fun value _ _ => ?_
  refine (call.keeps_expectText asked known "value" value).bind fun encoded _ => ?_
  cases Base64.decodeText encoded with
  | ok text => exact call.keeps_scalar asked known trivial
  | error fault => trivial

theorem str_defersForCalls : Function.DefersForCalls str := by
  intro call asked known supplied
  refine (Program.Ensures.resolved supplied.arguments).bind fun value all => ?_
  exact keeps_unlessCall supplied all trivial

theorem keeps_indentCount (value : Value) :
    call.Keeps asked known (fun _ => True) (indentCount call value) := by
  have counted : ∀ count : Int64, call.Keeps asked known (fun _ => True)
      (if count < 0 then call.refuse (.negativeIndent count)
        else pure count.toInt.toNat : Program Nat) := by
    intro count
    split <;> trivial
  cases value with
  | int n => exact counted n
  | float x => exact counted (Decimal.truncateToInt64 x)
  | _ => trivial

theorem indent_defersForCalls : Function.DefersForCalls indent := by
  intro call asked known supplied
  refine (Invocation.keeps_twoArguments supplied).bind fun arguments permitted => ?_
  refine Invocation.keeps_bothKnown supplied permitted fun count source _ _ => ?_
  refine (keeps_indentCount count).bind fun spaces _ => ?_
  dsimp only
  split
  · trivial
  · exact call.keeps_scalar asked known trivial

theorem replace_defersForCalls : Function.DefersForCalls replace := by
  intro call asked known supplied
  refine (Invocation.keeps_twoArguments supplied).bind fun arguments permitted => ?_
  refine Invocation.keeps_bothKnown supplied permitted fun replacements source all _ => ?_
  refine (call.keeps_expectMap asked known "replacements" all).bind fun entries inside => ?_
  split
  · next unknown =>
    obtain ⟨entry, member, contains⟩ := List.any_eq_true.1 unknown
    exact Invocation.keeps_keep supplied (inside entry member) contains
  · exact call.keeps_scalar asked known trivial

theorem matchPattern_defersForCalls : Function.DefersForCalls matchPattern := by
  intro call asked known supplied
  refine (Invocation.keeps_twoArguments supplied).bind fun arguments permitted => ?_
  refine Invocation.keeps_bothKnown supplied permitted fun pattern source _ _ => ?_
  refine (call.keeps_expectText asked known "pattern" pattern).bind fun text _ => ?_
  exact (call.keeps_compiled asked known text).bind fun _ _ => call.keeps_scalar asked known trivial

end Strings

/-! ## Functions on lists -/

namespace Collection

theorem keeps_toIndex (value : Value) :
    call.Keeps asked known (fun _ => True) (toIndex call value) := by
  cases value with
  | string text =>
    unfold toIndex
    dsimp only
    cases leadingInteger? text.toList <;> trivial
  | _ => trivial

theorem mem_of_itemAt?_eq_some {items : List Value} {index : Int64} {item : Value}
    (found : itemAt? items index = some item) : item ∈ items := by
  unfold itemAt? at found
  split at found
  · cases found
  · exact List.mem_of_getElem? found

theorem select_defersForCalls : Function.DefersForCalls select := by
  intro call asked known supplied
  refine (Invocation.keeps_twoArguments supplied).bind fun arguments permitted => ?_
  refine Invocation.keeps_known supplied permitted.1 fun place _ _ => ?_
  refine (keeps_toIndex place).bind fun index _ => ?_
  refine Invocation.keeps_known supplied permitted.2 fun list all _ => ?_
  refine (call.keeps_expectList asked known "list" all).bind fun items known_items => ?_
  cases found : itemAt? items index with
  | none => trivial
  | some item => exact known_items item (mem_of_itemAt?_eq_some found)

theorem index_defersForCalls : Function.DefersForCalls index := by
  intro call asked known supplied
  refine (Invocation.keeps_twoArguments supplied).bind fun arguments permitted => ?_
  refine Invocation.keeps_bothKnown supplied permitted fun list value all _ => ?_
  refine (call.keeps_expectList asked known "list" all).bind fun items _ => ?_
  split
  · exact call.keeps_scalar asked known trivial
  · exact call.keeps_scalar asked known trivial

theorem length_defersForCalls : Function.DefersForCalls length := by
  intro call asked known supplied
  refine (Invocation.keeps_oneArgument supplied).bind fun argument permitted => ?_
  refine Invocation.keeps_known supplied permitted fun value _ _ => ?_
  cases value with
  | string text => exact call.keeps_scalar asked known trivial
  | list items => exact call.keeps_scalar asked known trivial
  | _ => trivial

theorem keeps_appendLists (supplied : call.Supplied asked known) {collected arguments : List Value}
    (so_far : ∀ item ∈ collected, item.CallsFrom call.scope.config known)
    (permitted : ∀ argument ∈ arguments, asked argument) :
    call.Keeps asked known (Value.CallsFrom call.scope.config known)
      (appendLists call collected arguments) := by
  induction arguments generalizing collected with
  | nil => exact Value.CallsFrom.list so_far
  | cons argument arguments ih =>
    obtain ⟨here, others⟩ := List.forall_mem_cons.1 permitted
    refine Invocation.keeps_known supplied here fun value all _ => ?_
    refine (call.keeps_expectList asked known "element" all).bind fun items further => ?_
    exact ih (List.forall_mem_append.2 ⟨so_far, further⟩) others

theorem listMerge_defersForCalls : Function.DefersForCalls listMerge := by
  intro call asked known supplied
  exact (Invocation.keeps_argumentList supplied).bind fun _ permitted =>
    keeps_appendLists supplied (List.forall_mem_nil _) permitted

/-- The values at a key have the calls of the maps that they stand in. -/
theorem keeps_project (key : String) {items : List Value}
    (all : ∀ item ∈ items, item.CallsFrom call.scope.config known) : call.Keeps asked known
    (fun values => ∀ value ∈ values, value.CallsFrom call.scope.config known)
    (project call key items) := by
  induction items with
  | nil => exact List.forall_mem_nil _
  | cons item items ih =>
    obtain ⟨here, others⟩ := List.forall_mem_cons.1 all
    cases item with
    | map entries =>
      refine (ih others).bind fun values further => List.forall_mem_cons.2 ⟨?_, further⟩
      cases found : Entries.get? entries key with
      | none => exact .of_isScalar trivial
      | some value => exact here.children _ (Entries.mem_of_get?_eq_some found)
    | _ => trivial

theorem selectMapList_defersForCalls : Function.DefersForCalls selectMapList := by
  intro call asked known supplied
  refine (Invocation.keeps_twoArguments supplied).bind fun arguments permitted => ?_
  refine Invocation.keeps_bothKnown supplied permitted fun key maps _ all => ?_
  refine (call.keeps_expectText asked known "key" key).bind fun name _ => ?_
  refine (call.keeps_expectList asked known "maps" all).bind fun items inside => ?_
  exact (keeps_project name inside).bind fun values further => Value.CallsFrom.list further

end Collection

/-! ## Functions on maps -/

namespace Mapping

/-- The entries of tables stand in the section of the tables. -/
theorem exists_tables_of_entry? {template value : Value} {table outer inner : String}
    (found : entry? template table outer inner = some value) :
    ∃ tables, template.get? tablesSection = some tables ∧ value.Within tables := by
  unfold entry? at found
  obtain ⟨tables, here, found⟩ := Option.bind_eq_some_iff.1 found
  obtain ⟨rows, first, found⟩ := Option.bind_eq_some_iff.1 found
  obtain ⟨row, second, third⟩ := Option.bind_eq_some_iff.1 found
  have in_row := (Value.within_of_get? third).trans (Value.within_of_get? second)
  exact ⟨tables, here, in_row.trans (Value.within_of_get? first)⟩

/-- A look-up is kept if the table has no such entry. -/
theorem findInMap_keepsCalls : Function.KeepsCalls findInMap := by
  intro call asked known sourced
  have supplied := sourced.supplied
  refine (Invocation.keeps_threeArguments supplied).bind fun arguments permitted => ?_
  refine Invocation.keeps_known supplied permitted.1 fun table _ _ => ?_
  refine Invocation.keeps_known supplied permitted.2.1 fun outer _ _ => ?_
  refine Invocation.keeps_known supplied permitted.2.2 fun inner _ _ => ?_
  refine (call.keeps_expectText asked known "map" table).bind fun name _ => ?_
  cases found : entry? call.scope.template name outer.text inner.text with
  | none => exact sourced.node
  | some value => exact .resolved (sourced.entries _ _ _ value found)

/-! ### Merging -/

/-- The map that has been merged so far is no call, and has known calls. -/
structure Merged (config : Config) (known : Value → Prop) (target : Entries Value) : Prop where
  data : (Value.map target).isCall config = false
  calls : (Value.map target).CallsFrom config known

variable {config : Config}

theorem Merged.nil : Merged config known [] :=
  ⟨rfl, .map rfl List.nodup_nil (List.forall_mem_nil _)⟩

/-- **Merging forms no call**, and all calls in the merged map were in one of the two. -/
theorem Merged.merge {target entries : Entries Value} (merged : Merged config known target)
    (further : Merged config known entries) : Merged config known (target.merge entries) := by
  have distinct : ∀ {entries : Entries Value}, Merged config known entries → entries.Distinct :=
    fun merged => merged.calls.distinct.1
  have data := Value.isCall_merge_eq_false (distinct further) merged.data further.data
  refine ⟨data, .map data ((distinct merged).merge entries) fun entry member => ?_⟩
  rcases Entries.mem_or_mem_of_mem_merge member with here | there
  · exact merged.calls.children entry here
  · exact further.calls.children entry there

theorem mergeItem_merged {target merged : Entries Value}
    (so_far : Merged call.scope.config known target) {item : Value}
    (all : item.CallsFrom call.scope.config known)
    (found : mergeItem call target item = .ok merged) : Merged call.scope.config known merged := by
  unfold mergeItem at found
  cases data : call.isCall item with
  | true =>
    rw [data] at found
    cases found
  | false =>
    rw [data] at found
    cases item with
    | map entries =>
      cases found
      exact so_far.merge ⟨data, all⟩
    | _ => cases found

theorem mergeItems_merged {targets merged : List (Entries Value)}
    (so_far : ∀ target ∈ targets, Merged call.scope.config known target) {items : List Value}
    (all : ∀ item ∈ items, item.CallsFrom call.scope.config known)
    (found : mergeItems call targets items = .ok merged) :
    ∀ target ∈ merged, Merged call.scope.config known target := by
  induction targets generalizing items merged with
  | nil =>
    unfold mergeItems at found
    cases found
    exact List.forall_mem_nil _
  | cons target targets ih =>
    cases items with
    | nil =>
      unfold mergeItems at found
      cases found
      exact so_far
    | cons item items =>
      obtain ⟨here, others⟩ := List.forall_mem_cons.1 so_far
      obtain ⟨first, rest⟩ := List.forall_mem_cons.1 all
      unfold mergeItems at found
      obtain ⟨next, step, found⟩ := bind_eq_ok_iff.1 found
      obtain ⟨nexts, steps, found⟩ := bind_eq_ok_iff.1 found
      cases found
      exact List.forall_mem_cons.2 ⟨mergeItem_merged here first step, ih others rest steps⟩

theorem mergeable_calls {list : Value} (all : list.CallsFrom call.scope.config known)
    {items : List Value} (found : mergeable call list = .ok items) :
    ∀ item ∈ items, item.CallsFrom call.scope.config known := by
  cases list with
  | list inner =>
    cases found
    exact all.items
  | _ => cases found

theorem mergeLists_merged {targets merged : List (Entries Value)}
    (so_far : ∀ target ∈ targets, Merged call.scope.config known target) {lists : List Value}
    (all : ∀ list ∈ lists, list.CallsFrom call.scope.config known)
    (found : mergeLists call targets lists = .ok merged) :
    ∀ target ∈ merged, Merged call.scope.config known target := by
  induction lists generalizing targets with
  | nil =>
    cases found
    exact so_far
  | cons list lists ih =>
    obtain ⟨here, others⟩ := List.forall_mem_cons.1 all
    unfold mergeLists at found
    obtain ⟨items, listed, found⟩ := bind_eq_ok_iff.1 found
    split at found
    · cases found
    · obtain ⟨next, step, found⟩ := bind_eq_ok_iff.1 found
      exact ih (mergeItems_merged so_far (mergeable_calls here listed) step) others found

theorem merge_merged {lists : List Value}
    (all : ∀ list ∈ lists, list.CallsFrom call.scope.config known)
    {merged : List (Entries Value)} (found : Mapping.merge call lists = .ok merged) :
    ∀ target ∈ merged, Merged call.scope.config known target := by
  cases lists with
  | nil =>
    cases found
    exact List.forall_mem_nil _
  | cons list lists =>
    unfold Mapping.merge at found
    obtain ⟨items, _, found⟩ := bind_eq_ok_iff.1 found
    refine mergeLists_merged (fun target member => ?_) all found
    obtain ⟨_, _, rfl⟩ := List.mem_map.1 member
    exact .nil

/-- Merging stops without an error only at a call. -/
theorem isCall_of_mergeItem {target : Entries Value} {item : Value}
    (stopped : mergeItem call target item = .error .unknown) : call.isCall item = true := by
  unfold mergeItem at stopped
  cases data : call.isCall item with
  | true => rfl
  | false =>
    rw [data] at stopped
    cases item <;> cases stopped

theorem exists_isCall_of_mergeItems {targets : List (Entries Value)} {items : List Value}
    (stopped : mergeItems call targets items = .error .unknown) :
    ∃ item ∈ items, call.isCall item = true := by
  induction targets generalizing items with
  | nil =>
    unfold mergeItems at stopped
    cases stopped
  | cons target targets ih =>
    cases items with
    | nil =>
      unfold mergeItems at stopped
      cases stopped
    | cons item items =>
      unfold mergeItems at stopped
      rcases bind_eq_error_iff.1 stopped with here | ⟨next, _, stopped⟩
      · exact ⟨item, List.mem_cons_self, isCall_of_mergeItem here⟩
      · rcases bind_eq_error_iff.1 stopped with later | ⟨nexts, _, done⟩
        · obtain ⟨other, member, is_call⟩ := ih later
          exact ⟨other, List.mem_cons_of_mem _ member, is_call⟩
        · cases done

theorem exists_containsCall_of_mergeLists {targets : List (Entries Value)} {lists : List Value}
    (stopped : mergeLists call targets lists = .error .unknown) :
    ∃ list ∈ lists, call.containsCall list = true := by
  induction lists generalizing targets with
  | nil => cases stopped
  | cons list lists ih =>
    unfold mergeLists at stopped
    rcases bind_eq_error_iff.1 stopped with refused | ⟨items, listed, stopped⟩
    · cases list <;> cases refused
    · split at stopped
      · cases stopped
      · rcases bind_eq_error_iff.1 stopped with here | ⟨next, _, later⟩
        · obtain ⟨item, member, is_call⟩ := exists_isCall_of_mergeItems here
          refine ⟨list, List.mem_cons_self, ?_⟩
          cases list with
          | list inner =>
            cases listed
            unfold Invocation.containsCall
            rw [Value.containsCall, Value.itemsContainCall_eq_any, List.any_eq_true]
            exact ⟨item, member, Value.containsCall_of_isCall is_call⟩
          | _ => cases listed
        · obtain ⟨other, member, contains⟩ := ih later
          exact ⟨other, List.mem_cons_of_mem _ member, contains⟩

theorem exists_containsCall_of_merge {lists : List Value}
    (stopped : Mapping.merge call lists = .error .unknown) :
    ∃ list ∈ lists, call.containsCall list = true := by
  cases lists with
  | nil => cases stopped
  | cons list lists =>
    unfold Mapping.merge at stopped
    rcases bind_eq_error_iff.1 stopped with refused | ⟨items, _, stopped⟩
    · cases list <;> cases refused
    · exact exists_containsCall_of_mergeLists stopped

theorem mergeMapToList_defersForCalls : Function.DefersForCalls mergeMapToList := by
  intro call asked known supplied
  refine (Invocation.keeps_argumentList supplied).bind fun arguments permitted => ?_
  refine Invocation.keeps_allKnown supplied permitted fun lists all => ?_
  cases found : Mapping.merge call lists with
  | error obstacle =>
    cases obstacle with
    | unknown =>
      obtain ⟨list, member, contains⟩ := exists_containsCall_of_merge found
      exact Invocation.keeps_keep supplied (all list member) contains
    | error error => trivial
  | ok merged =>
    refine Value.CallsFrom.list fun item member => ?_
    obtain ⟨target, listed, rfl⟩ := List.mem_map.1 member
    exact (merge_merged all found target listed).calls

end Mapping

/-! ## All functions -/

/-- The functions that may keep their call without having been given a call. `GetJsonValue` may also
end with a call that it makes out of a text. -/
def hesitantNames : List String :=
  ["Sub", "Calculate", "FindInMap", "GetJsonValue", "If"]

theorem Math.definitions_deferForCalls :
    ∀ definition ∈ Math.definitions, definition.signature.name ∉ hesitantNames →
      Function.DefersForCalls definition.function := by
  simp only [Math.definitions, List.forall_mem_cons]
  exact ⟨fun _ => fold_defersForCalls 2 sum, fun _ => fold_defersForCalls 1 mean,
    fun _ => fold_defersForCalls 1 greatest, fun _ => fold_defersForCalls 1 least,
    fun other => absurd (by decide) other, List.forall_mem_nil _⟩

theorem Logic.definitions_deferForCalls :
    ∀ definition ∈ Logic.definitions, definition.signature.name ∉ hesitantNames →
      Function.DefersForCalls definition.function := by
  simp only [Logic.definitions, List.forall_mem_cons]
  exact ⟨fun _ => and_defersForCalls, fun _ => or_defersForCalls, fun _ => not_defersForCalls,
    fun _ => any_defersForCalls, fun _ => contains_defersForCalls,
    fun _ => eachMemberIn_defersForCalls, fun _ => equals_defersForCalls,
    fun other => absurd (by decide) other, List.forall_mem_nil _⟩

theorem Strings.definitions_deferForCalls :
    ∀ definition ∈ Strings.definitions, definition.signature.name ∉ hesitantNames →
      Function.DefersForCalls definition.function := by
  simp only [Strings.definitions, List.forall_mem_cons]
  exact ⟨fun _ => join_defersForCalls, fun _ => split_defersForCalls,
    fun other => absurd (by decide) other, fun _ => base64Encode_defersForCalls,
    fun _ => base64Decode_defersForCalls, fun _ => str_defersForCalls,
    fun _ => indent_defersForCalls, fun _ => replace_defersForCalls,
    fun _ => matchPattern_defersForCalls, List.forall_mem_nil _⟩

theorem Collection.definitions_deferForCalls :
    ∀ definition ∈ Collection.definitions, definition.signature.name ∉ hesitantNames →
      Function.DefersForCalls definition.function := by
  simp only [Collection.definitions, List.forall_mem_cons]
  exact ⟨fun _ => select_defersForCalls, fun _ => index_defersForCalls,
    fun _ => length_defersForCalls, fun _ => listMerge_defersForCalls,
    fun _ => selectMapList_defersForCalls, List.forall_mem_nil _⟩

theorem Mapping.definitions_deferForCalls :
    ∀ definition ∈ Mapping.definitions, definition.signature.name ∉ hesitantNames →
      Function.DefersForCalls definition.function := by
  simp only [Mapping.definitions, List.forall_mem_cons]
  exact ⟨fun other => absurd (by decide) other, fun other => absurd (by decide) other,
    fun _ => mergeMapToList_defersForCalls, List.forall_mem_nil _⟩

/-- **Built-in functions defer for calls only**, but for five. -/
theorem Registry.BuiltIn.defersForCalls {registry : Registry} (builtIn : registry.BuiltIn)
    {name : String} {function : Function} (found : registry.function? name = some function)
    (other : name ∉ hesitantNames) : function.DefersForCalls := by
  obtain ⟨category, definition, grouped, rfl, rfl⟩ := builtIn.exists_definition found
  cases category with
  | math => exact Math.definitions_deferForCalls definition grouped other
  | logic => exact Logic.definitions_deferForCalls definition grouped other
  | string => exact Strings.definitions_deferForCalls definition grouped other
  | collection => exact Collection.definitions_deferForCalls definition grouped other
  | mapping => exact Mapping.definitions_deferForCalls definition grouped other

/-- **All built-in functions keep calls** but `GetJsonValue`. -/
theorem Registry.BuiltIn.keepsCalls {registry : Registry} (builtIn : registry.BuiltIn)
    {name : String} {function : Function} (found : registry.function? name = some function)
    (other : name ≠ "GetJsonValue") : function.KeepsCalls := by
  rcases Classical.em (name ∈ hesitantNames) with hesitant | prompt
  · have standard := builtIn name function found
    simp only [hesitantNames, List.mem_cons, List.not_mem_nil, or_false] at hesitant
    rcases hesitant with rfl | rfl | rfl | rfl | rfl
    · cases standard
      exact Substitution.sub_keepsCalls
    · cases standard
      exact Math.calculate_keepsCalls
    · cases standard
      exact Mapping.findInMap_keepsCalls
    · exact absurd rfl other
    · cases standard
      exact Logic.choose_keepsCalls
  · exact (builtIn.defersForCalls found prompt).keepsCalls

end CloudTemplate

import CloudTemplate.Proofs.TwoPasses.Arguments

/-!
# Functions in two passes

The built-in functions that may be folded early. Those that stop at the first argument that is not
known yet follow from what is known about arguments; the others need a reason of their own: what
`Any` looks at besides its items, that a text is made only of what has no calls, and that
selecting, concatenating and merging move values that are still to be resolved without looking
into them.
-/

set_option autoImplicit false

namespace CloudTemplate

variable {registry : Registry} {call : Invocation} {more : Parameters}

/-! ## Functions on truth -/

namespace Logic

theorem follows_shortCircuit (ignores : registry.IgnoresDepth) (decisive : Bool)
    {operands : List Value} (inside : ∀ operand ∈ operands, operand.Within call.arguments) :
    call.Follows registry more (shortCircuit call decisive operands)
      (shortCircuit (call.withParameters more) decisive operands) := by
  induction operands with
  | nil => exact .done (.bool _)
  | cons operand operands ih =>
    have here := inside operand List.mem_cons_self
    refine Invocation.follows_known ignores here fun answer last becomes _ => ?_
    refine Invocation.follows_expectTruth becomes fun truth => ?_
    by_cases decides : truth = decisive
    · rw [if_pos decides, if_pos decides]
      exact .done (.bool _)
    · rw [if_neg decides, if_neg decides]
      exact ih fun other member => inside other (List.mem_cons_of_mem _ member)

theorem and_foldsEarly (ignores : registry.IgnoresDepth) :
    Function.FoldsEarly registry Logic.and fun _ => True :=
  fun _ _ _ _ => Invocation.follows_atLeast fun _ inside =>
    follows_shortCircuit ignores false inside

theorem or_foldsEarly (ignores : registry.IgnoresDepth) :
    Function.FoldsEarly registry Logic.or fun _ => True :=
  fun _ _ _ _ => Invocation.follows_atLeast fun _ inside =>
    follows_shortCircuit ignores true inside

theorem not_foldsEarly (ignores : registry.IgnoresDepth) :
    Function.FoldsEarly registry Logic.not fun _ => True := by
  intro call more _ _
  refine Invocation.follows_oneArgument fun operand inside => ?_
  refine Invocation.follows_known ignores inside fun answer last becomes _ => ?_
  exact Invocation.follows_expectTruth becomes fun truth => .done (.bool _)

/-- Items up to the first that is true stay as they are. -/
theorem anyTrue_eq_of_becomes {later : Scope} {items lasts : List Value}
    (all : List.Forall₂ (Becomes registry later) items lasts) {truth : Bool}
    (found : anyTrue items = .ok truth) : anyTrue lasts = .ok truth := by
  induction all with
  | nil => exact found
  | @cons item last items lasts becomes _ ih =>
    unfold anyTrue at found ⊢
    cases holds : item.toBool with
    | error error =>
      rw [holds] at found
      cases found
    | ok itself =>
      rw [becomes.eq_of_isScalar (Invocation.isScalar_of_toBool holds), holds]
      rw [holds] at found
      cases itself with
      | true => exact found
      | false => exact ih found

/-- If no item is a call, no item becomes one. -/
theorem any_isCall_eq_false_of_becomes (ignores : registry.IgnoresDepth) {later : Scope}
    {items lasts : List Value} (all : List.Forall₂ (Becomes registry later) items lasts)
    (none : items.any (Value.isCall later.config) = false) :
    lasts.any (Value.isCall later.config) = false := by
  induction all with
  | nil => rfl
  | cons becomes _ ih =>
    rw [List.any_cons, Bool.or_eq_false_iff] at none ⊢
    exact ⟨becomes.isCall_eq_false ignores none.1, ih none.2⟩

theorem any_foldsEarly (ignores : registry.IgnoresDepth) :
    Function.FoldsEarly registry Logic.any fun _ => True := by
  intro call more _ _
  refine Invocation.follows_oneArgument fun argument inside => ?_
  refine Invocation.follows_known ignores inside fun answer last becomes _ => ?_
  refine Invocation.follows_expectList ignores becomes fun items lasts all => ?_
  cases waiting : items.any call.isCall with
  | true =>
    rw [if_pos rfl]
    exact .kept _
  | false =>
    have later : lasts.any (call.withParameters more).isCall = false :=
      any_isCall_eq_false_of_becomes ignores all waiting
    rw [later, if_neg Bool.false_ne_true, if_neg Bool.false_ne_true]
    cases found : anyTrue items with
    | error error => exact .failed _ _
    | ok truth =>
      rw [anyTrue_eq_of_becomes all found]
      exact .done (.bool _)

/-- The truth of a condition that the first pass knows. A text names a parameter, and the later pass
has all parameters of the first. -/
theorem follows_conditionTruth (extended : Parameters.Extends call.scope.parameters more)
    {answer last : Value} (becomes : Becomes registry (call.scope.withParameters more) answer last)
    {next after : Option Bool → Program Value}
    (unknown : ∀ program, call.Follows registry more (next none) program)
    (rest : ∀ truth, call.Follows registry more (next (some truth)) (after (some truth))) :
    call.Follows registry more (conditionTruth call answer >>= next)
      (conditionTruth (call.withParameters more) last >>= after) := by
  unfold conditionTruth
  cases answer with
  | bool truth =>
    rw [becomes.eq_of_isScalar trivial]
    exact rest truth
  | string name =>
    rw [becomes.eq_of_isScalar trivial]
    cases known : call.scope.parameters.get? name with
    | none =>
      dsimp only
      rw [known]
      exact .note (unknown _)
    | some value =>
      have again : (call.withParameters more).scope.parameters.get? name = some value :=
        extended name value known
      dsimp only
      rw [known, again]
      dsimp only [Invocation.expectTruth]
      cases value.toBool with
      | error error => exact .failed _ _
      | ok truth => exact rest truth
  | list items => exact .failed _ _
  | map entries => exact .failed _ _
  | null => exact .failed _ _
  | _ =>
    rw [becomes.eq_of_isScalar trivial]
    exact rest _

theorem choose_foldsEarly (ignores : registry.IgnoresDepth) :
    Function.FoldsEarly registry Logic.choose fun _ => True := by
  intro call more _ extended
  refine Invocation.follows_threeArguments fun condition onTrue onFalse asked first second => ?_
  refine Invocation.follows_known ignores asked fun answer last becomes _ => ?_
  refine follows_conditionTruth extended becomes (fun program => .kept _) fun truth => ?_
  have inside : (if truth then onTrue else onFalse).Within call.arguments := by
    cases truth with
    | true => exact first
    | false => exact second
  exact .resolve inside fun branch last settled => .done settled

end Logic

/-! ## Functions on numbers -/

namespace Math

/-- A list of numbers stays the list that it is. -/
theorem follows_numbers {answers lasts : List Value}
    (all : List.Forall₂ (Becomes registry (call.scope.withParameters more)) answers lasts)
    {next after : List Float → Program Value}
    (rest : ∀ numbers, call.Follows registry more (next numbers) (after numbers)) :
    call.Follows registry more (numbers call answers >>= next)
      (numbers (call.withParameters more) lasts >>= after) := by
  induction all generalizing next after with
  | nil => exact rest []
  | @cons answer last answers lasts becomes _ ih =>
    unfold numbers
    cases number : answer.asFloat? with
    | none => exact .failed _ _
    | some x =>
      have scalar : answer.IsScalar := by
        cases answer with
        | list items => cases number
        | map entries => cases number
        | _ => trivial
      rw [becomes.eq_of_isScalar scalar, number]
      dsimp only
      rw [LawfulMonad.bind_assoc, LawfulMonad.bind_assoc]
      exact ih fun others => rest (x :: others)

theorem follows_finite (result : Float) :
    call.Follows registry more (finite call result)
      (finite (call.withParameters more) result) := by
  unfold finite
  split
  · refine .done (.scalar ?_)
    unfold Value.ofNumber
    split
    · split
      · trivial
      · trivial
    · trivial
  · exact .failed _ _

theorem fold_foldsEarly (ignores : registry.IgnoresDepth) (fewest : Nat)
    (compute : List Float → Float) :
    Function.FoldsEarly registry (Math.fold fewest compute) fun _ => True := by
  intro call more _ _
  refine Invocation.follows_atLeast fun arguments inside => ?_
  refine Invocation.follows_allKnown ignores inside fun answers lasts all _ => ?_
  exact follows_numbers all fun numbers => follows_finite (compute numbers)

theorem calculate_foldsEarly (ignores : registry.IgnoresDepth) :
    Function.FoldsEarly registry Math.calculate fun _ => True := by
  intro call more _ _
  refine Invocation.follows_known ignores (.self _) fun answer last becomes _ => ?_
  refine Invocation.follows_expectText becomes fun text => ?_
  cases Arithmetic.evaluate text with
  | ok result => exact follows_finite result
  | error fault =>
    cases fault with
    | divisionByZero => exact .failed _ _
    | moduloByZero => exact .failed _ _
    | _ => exact .note (.kept _)

end Math

/-! ## Functions on texts -/

namespace Strings

/-- A text is made of a value only when no call is left in it. -/
theorem follows_text (ignores : registry.IgnoresDepth) (text : Value → String) :
    call.Follows registry more
      (do
        let value ← Program.resolved call.arguments
        call.unlessCall value (pure (.string (text value))))
      (do
        let value ← Program.resolved call.arguments
        (call.withParameters more).unlessCall value (pure (.string (text value)))) := by
  refine .resolve (.self _) fun answer last becomes => ?_
  change call.Follows registry more (call.unlessCall answer (pure (.string (text answer))))
    (call.unlessCall last (pure (.string (text last))))
  unfold Invocation.unlessCall
  cases plain : call.containsCall answer with
  | true => exact .kept _
  | false =>
    rw [becomes.eq_of_containsCall_eq_false ignores plain, plain]
    exact .done (.scalar trivial)

theorem str_foldsEarly (ignores : registry.IgnoresDepth) :
    Function.FoldsEarly registry Strings.str fun _ => True :=
  fun _ _ _ _ => follows_text ignores Value.text

theorem base64Encode_foldsEarly (ignores : registry.IgnoresDepth) :
    Function.FoldsEarly registry Strings.base64Encode fun _ => True :=
  fun _ _ _ _ => follows_text ignores fun value => Base64.encodeText value.text

theorem base64Decode_foldsEarly (ignores : registry.IgnoresDepth) :
    Function.FoldsEarly registry Strings.base64Decode fun _ => True := by
  intro call more _ _
  refine Invocation.follows_known ignores (.self _) fun answer last becomes _ => ?_
  refine Invocation.follows_expectText becomes fun encoded => ?_
  cases Base64.decodeText encoded with
  | ok text => exact .done (.scalar trivial)
  | error fault => exact .failed _ _

end Strings

namespace Substitution

/-- What a name stands for, it stands for with more parameters. -/
theorem value?_eq_some_of_extends (extended : Parameters.Extends call.scope.parameters more)
    {name : List Char} {value : Value} (known : value? call [] name = some value) :
    value? (call.withParameters more) [] name = some value := by
  unfold value? at known ⊢
  dsimp only at known ⊢
  rw [Entries.get?_nil, Option.none_or] at known ⊢
  cases found : call.scope.parameters.get? (String.ofList name) with
  | none =>
    rw [found] at known
    cases known
  | some parameter =>
    have again : (call.withParameters more).scope.parameters.get? (String.ofList name) =
        some parameter := extended _ _ found
    rw [found] at known
    rw [again]
    exact known

/-- What has been substituted without inline variables is the same with more parameters. -/
theorem substitute_eq_ok_of_extends (extended : Parameters.Extends call.scope.parameters more)
    {pieces : List Piece} {text : List Char} (found : substitute call [] pieces = .ok text) :
    substitute (call.withParameters more) [] pieces = .ok text := by
  induction pieces generalizing text with
  | nil => exact found
  | cons piece pieces ih =>
    have rest : ∀ {next : List Char → Except String (List Char)},
        (substitute call [] pieces >>= next) = .ok text →
        (substitute (call.withParameters more) [] pieces >>= next) = .ok text := by
      intro next found
      obtain ⟨written, others, found⟩ := bind_eq_ok_iff.1 found
      rw [ih others]
      exact found
    cases piece with
    | plain c => exact rest found
    | escape name => exact rest found
    | name name =>
      unfold substitute at found ⊢
      cases static : isStatic call.scope.config name with
      | false =>
        rw [static] at found
        cases found
      | true =>
        have again : isStatic (call.withParameters more).scope.config name = true := static
        rw [static] at found
        rw [again]
        cases known : value? call [] name with
        | none =>
          rw [known] at found
          cases found
        | some value =>
          rw [known] at found
          rw [value?_eq_some_of_extends extended known]
          exact rest found

/-- Whether the arguments are a text with a map of variables. -/
def hasVariables : Value → Bool
  | .list [_, _] => true
  | _ => false

theorem follows_arguments (bare : hasVariables call.arguments = false)
    {next after : Value × Option Value → Program Value}
    (rest : ∀ text : Value, text.Within call.arguments →
      call.Follows registry more (next (text, none)) (after (text, none))) :
    call.Follows registry more (arguments call >>= next)
      (arguments (call.withParameters more) >>= after) := by
  change call.Follows registry more (arguments call >>= next) (arguments call >>= after)
  have whole : call.arguments.Within call.arguments := .self _
  unfold arguments
  cases written : call.arguments with
  | list items =>
    rw [written] at bare whole
    match items with
    | [] => exact .failed _ _
    | [text] => exact rest text (written ▸ .item List.mem_cons_self (.self text))
    | [_, _] => cases bare
    | _ :: _ :: _ :: _ => exact .failed _ _
  | _ => exact rest _ (written ▸ whole)

theorem sub_foldsEarly (ignores : registry.IgnoresDepth) :
    Function.FoldsEarly registry Substitution.sub
      fun call => hasVariables call.arguments = false := by
  intro call more bare extended
  refine follows_arguments bare fun text inside => ?_
  refine Invocation.follows_known ignores inside fun answer last becomes _ => ?_
  refine Invocation.follows_expectText becomes fun text => ?_
  refine .compile fun compiled => ?_
  cases compiled with
  | error fault => exact .failed _ _
  | ok pattern =>
    simp only [Program.bind]
    cases found : substitute call [] (pieces text.toList) with
    | error line => exact .note (.kept _)
    | ok result =>
      rw [substitute_eq_ok_of_extends extended found]
      exact .done (.scalar trivial)

end Substitution

/-! ## Functions on lists -/

namespace Collection

/-- An index stays the index that it is. -/
theorem follows_toIndex {answer last : Value}
    (becomes : Becomes registry (call.scope.withParameters more) answer last)
    {next after : Int64 → Program Value}
    (rest : ∀ index, call.Follows registry more (next index) (after index)) :
    call.Follows registry more (toIndex call answer >>= next)
      (toIndex (call.withParameters more) last >>= after) := by
  cases answer with
  | int n =>
    rw [becomes.eq_of_isScalar trivial]
    exact rest n
  | float x =>
    rw [becomes.eq_of_isScalar trivial]
    exact rest _
  | string text =>
    rw [becomes.eq_of_isScalar trivial]
    unfold toIndex
    dsimp only
    cases leadingInteger? text.toList with
    | none => exact .failed _ _
    | some n => exact rest n
  | _ => exact .failed _ _

/-- The item at an index becomes the later item at that index. -/
theorem exists_itemAt?_eq_some {related : Value → Value → Prop} {items lasts : List Value}
    (all : List.Forall₂ related items lasts) {index : Int64} {item : Value}
    (found : itemAt? items index = some item) :
    ∃ last, itemAt? lasts index = some last ∧ related item last := by
  unfold itemAt? at found ⊢
  by_cases negative : index < 0
  · rw [if_pos negative] at found
    cases found
  · rw [if_neg negative] at found ⊢
    obtain ⟨here, rfl⟩ := List.getElem?_eq_some_iff.1 found
    have there : index.toInt.toNat < lasts.length := all.length_eq ▸ here
    exact ⟨lasts[index.toInt.toNat], List.getElem?_eq_getElem there, all.get here there⟩

theorem select_foldsEarly (ignores : registry.IgnoresDepth) :
    Function.FoldsEarly registry Collection.select fun _ => True := by
  intro call more _ _
  refine Invocation.follows_twoArguments fun index list first second => ?_
  refine Invocation.follows_known ignores first fun place final chosen _ => ?_
  refine follows_toIndex chosen fun place => ?_
  refine Invocation.follows_known ignores second fun answer last becomes _ => ?_
  refine Invocation.follows_expectList ignores becomes fun items lasts all => ?_
  cases found : itemAt? items place with
  | none => exact .failed _ _
  | some item =>
    obtain ⟨last, again, settled⟩ := exists_itemAt?_eq_some all found
    rw [again]
    exact .done settled

theorem length_foldsEarly (ignores : registry.IgnoresDepth) :
    Function.FoldsEarly registry Collection.length fun _ => True := by
  intro call more _ _
  refine Invocation.follows_oneArgument fun argument inside => ?_
  refine Invocation.follows_known ignores inside fun answer last becomes _ => ?_
  cases answer with
  | string text =>
    rw [becomes.eq_of_isScalar trivial]
    exact .done (.scalar trivial)
  | list items =>
    obtain ⟨lasts, rfl, all⟩ := (Becomes.list_iff ignores).1 becomes
    dsimp only
    rw [all.length_eq]
    exact .done (.scalar trivial)
  | _ => exact .failed _ _

/-- Items that have been collected become what the later pass collects. -/
theorem follows_appendLists (ignores : registry.IgnoresDepth) {arguments : List Value}
    (inside : ∀ argument ∈ arguments, argument.Within call.arguments) {collected again : List Value}
    (so_far : List.Forall₂ (Becomes registry (call.scope.withParameters more)) collected again) :
    call.Follows registry more (appendLists call collected arguments)
      (appendLists (call.withParameters more) again arguments) := by
  induction arguments generalizing collected again with
  | nil => exact .done ((Becomes.list_iff ignores).2 ⟨again, rfl, so_far⟩)
  | cons argument arguments ih =>
    have here := inside argument List.mem_cons_self
    refine Invocation.follows_known ignores here fun answer last becomes _ => ?_
    refine Invocation.follows_expectList ignores becomes fun items lasts all => ?_
    exact ih (fun other member => inside other (List.mem_cons_of_mem _ member))
      (List.rel_append so_far all)

theorem listMerge_foldsEarly (ignores : registry.IgnoresDepth) :
    Function.FoldsEarly registry Collection.listMerge fun _ => True :=
  fun _ _ _ _ => Invocation.follows_argumentList fun _ inside =>
    follows_appendLists ignores inside .nil

end Collection

/-! ## Functions on maps -/

namespace Mapping

/-- The map that the first pass has merged is no call, and becomes the map that the later pass has
merged. -/
structure Merges (registry : Registry) (later : Scope) (target last : Entries Value) : Prop where
  data : (Value.map target).isCall later.config = false
  becomes : Becomes registry later (.map target) (.map last)

variable {later : Scope}

theorem Merges.nil (ignores : registry.IgnoresDepth) : Merges registry later [] [] :=
  ⟨rfl, (Becomes.map_iff ignores rfl).2 ⟨[], rfl, List.nodup_nil, .nil⟩⟩

/-- Merging further entries into both maps. -/
theorem Merges.merge (ignores : registry.IgnoresDepth) {target last entries lasts : Entries Value}
    (merges : Merges registry later target last) (further : Merges registry later entries lasts) :
    Merges registry later (target.merge entries) (last.merge lasts) := by
  obtain ⟨_, same, distinct, all⟩ := (Becomes.map_iff ignores merges.data).1 merges.becomes
  cases same
  obtain ⟨_, same, others, rest⟩ := (Becomes.map_iff ignores further.data).1 further.becomes
  cases same
  have data := Value.isCall_merge_eq_false others merges.data further.data
  exact ⟨data, (Becomes.map_iff ignores data).2
    ⟨_, rfl, distinct.merge entries, EntryRel.merge all rest⟩⟩

theorem mergeItem_eq_ok (ignores : registry.IgnoresDepth) {target last merged : Entries Value}
    (merges : Merges registry (call.scope.withParameters more) target last) {item final : Value}
    (becomes : Becomes registry (call.scope.withParameters more) item final)
    (found : mergeItem call target item = .ok merged) :
    ∃ again, mergeItem (call.withParameters more) last final = .ok again ∧
      Merges registry (call.scope.withParameters more) merged again := by
  unfold mergeItem at found
  cases data : call.isCall item with
  | true =>
    rw [data] at found
    cases found
  | false =>
    rw [data] at found
    cases item with
    | map entries =>
      cases found
      have later : (Value.map entries).isCall (call.scope.withParameters more).config = false :=
        data
      obtain ⟨lasts, rfl, -⟩ := (Becomes.map_iff ignores later).1 becomes
      have known : (call.withParameters more).isCall (.map lasts) = false :=
        becomes.isCall_eq_false ignores data
      unfold mergeItem
      rw [known]
      exact ⟨_, rfl, merges.merge ignores ⟨later, becomes⟩⟩
    | _ => cases found

theorem mergeItems_eq_ok (ignores : registry.IgnoresDepth) {targets lasts : List (Entries Value)}
    (merges : List.Forall₂ (Merges registry (call.scope.withParameters more)) targets lasts)
    {items finals : List Value}
    (all : List.Forall₂ (Becomes registry (call.scope.withParameters more)) items finals)
    {merged : List (Entries Value)} (found : mergeItems call targets items = .ok merged) :
    ∃ again, mergeItems (call.withParameters more) lasts finals = .ok again ∧
      List.Forall₂ (Merges registry (call.scope.withParameters more)) merged again := by
  induction merges generalizing items finals merged with
  | nil =>
    unfold mergeItems at found ⊢
    cases found
    exact ⟨[], rfl, .nil⟩
  | @cons target last targets lasts here rest ih =>
    cases all with
    | nil =>
      unfold mergeItems at found ⊢
      cases found
      exact ⟨_, rfl, .cons here rest⟩
    | @cons item final items finals becomes others =>
      unfold mergeItems at found ⊢
      obtain ⟨first, one, found⟩ := bind_eq_ok_iff.1 found
      obtain ⟨remaining, further, found⟩ := bind_eq_ok_iff.1 found
      cases found
      obtain ⟨again, same, kept⟩ := mergeItem_eq_ok ignores here becomes one
      obtain ⟨agains, sames, keeps⟩ := ih others further
      rw [same, sames]
      exact ⟨_, rfl, .cons kept keeps⟩

theorem mergeable_eq_ok (ignores : registry.IgnoresDepth) {list last : Value}
    (becomes : Becomes registry (call.scope.withParameters more) list last) {items : List Value}
    (found : mergeable call list = .ok items) :
    ∃ lasts, mergeable (call.withParameters more) last = .ok lasts ∧
      List.Forall₂ (Becomes registry (call.scope.withParameters more)) items lasts := by
  cases list with
  | list inner =>
    cases found
    obtain ⟨lasts, rfl, all⟩ := (Becomes.list_iff ignores).1 becomes
    exact ⟨lasts, rfl, all⟩
  | _ => cases found

theorem mergeLists_eq_ok (ignores : registry.IgnoresDepth) {targets lasts : List (Entries Value)}
    (merges : List.Forall₂ (Merges registry (call.scope.withParameters more)) targets lasts)
    {lists finals : List Value}
    (all : List.Forall₂ (Becomes registry (call.scope.withParameters more)) lists finals)
    {merged : List (Entries Value)} (found : mergeLists call targets lists = .ok merged) :
    ∃ again, mergeLists (call.withParameters more) lasts finals = .ok again ∧
      List.Forall₂ (Merges registry (call.scope.withParameters more)) merged again := by
  induction all generalizing targets lasts merged with
  | nil =>
    cases found
    exact ⟨lasts, rfl, merges⟩
  | @cons list final lists finals becomes _ ih =>
    unfold mergeLists at found ⊢
    obtain ⟨items, listed, found⟩ := bind_eq_ok_iff.1 found
    obtain ⟨others, again, related⟩ := mergeable_eq_ok ignores becomes listed
    rw [again]
    by_cases unequal : items.length ≠ targets.length
    · rw [if_pos unequal] at found
      cases found
    · rw [if_neg unequal] at found
      obtain ⟨next, step, found⟩ := bind_eq_ok_iff.1 found
      obtain ⟨nexts, same, kept⟩ := mergeItems_eq_ok ignores merges related step
      obtain ⟨result, reached, done⟩ := ih kept found
      have equal : ¬others.length ≠ lasts.length := by
        rw [← related.length_eq, ← merges.length_eq]
        exact unequal
      refine ⟨result, ?_, done⟩
      change (if others.length ≠ lasts.length then _ else _) = _
      rw [if_neg equal, same]
      exact reached

theorem merge_eq_ok (ignores : registry.IgnoresDepth) {lists lasts : List Value}
    (all : List.Forall₂ (Becomes registry (call.scope.withParameters more)) lists lasts)
    {merged : List (Entries Value)} (found : Mapping.merge call lists = .ok merged) :
    ∃ again, Mapping.merge (call.withParameters more) lasts = .ok again ∧
      List.Forall₂ (Merges registry (call.scope.withParameters more)) merged again := by
  cases all with
  | nil =>
    cases found
    exact ⟨[], rfl, .nil⟩
  | @cons list last lists lasts becomes rest =>
    unfold Mapping.merge at found ⊢
    dsimp only at found ⊢
    obtain ⟨items, listed, found⟩ := bind_eq_ok_iff.1 found
    obtain ⟨others, again, related⟩ := mergeable_eq_ok ignores becomes listed
    rw [again]
    have empty : List.Forall₂ (Merges registry (call.scope.withParameters more))
        (items.map fun _ => []) (others.map fun _ => []) := by
      rw [List.forall₂_map_left_iff, List.forall₂_map_right_iff]
      exact related.imp fun _ _ _ => .nil ignores
    exact mergeLists_eq_ok ignores empty (.cons becomes rest) found

theorem mergeMapToList_foldsEarly (ignores : registry.IgnoresDepth) :
    Function.FoldsEarly registry Mapping.mergeMapToList fun _ => True := by
  intro call more _ _
  refine Invocation.follows_argumentList fun arguments inside => ?_
  refine Invocation.follows_allKnown ignores inside fun lists lasts all _ => ?_
  cases found : Mapping.merge call lists with
  | error obstacle =>
    cases obstacle with
    | unknown => exact .kept _
    | error error => exact .failed _ _
  | ok merged =>
    obtain ⟨again, same, merges⟩ := merge_eq_ok ignores all found
    rw [same]
    refine .done ((Becomes.list_iff ignores).2 ⟨again.map .map, rfl, ?_⟩)
    rw [List.forall₂_map_left_iff, List.forall₂_map_right_iff]
    exact merges.imp fun _ _ kept => kept.becomes

end Mapping

end CloudTemplate

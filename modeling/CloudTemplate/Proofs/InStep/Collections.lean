import CloudTemplate.Function.Collection
import CloudTemplate.Proofs.InStep

/-!
# Functions on lists and maps in step

Selecting, concatenating, projecting and merging move values without looking into them, so that
values that match end up at the same places. Merging is the one function that puts maps together
(`Mapping.MergedAlike.merge`).
-/

set_option autoImplicit false

namespace CloudTemplate

variable {first second : Value → Except Error Value} {calls : Value → Value → Prop}
  {one other : Invocation} {name : String}

open Invocation (inStep_scalar inStep_keep inStep_noted inStep_matching inStep_reading
  inStep_bothKnown inStep_allKnown inStep_allArguments inStep_oneArgument inStep_twoArguments
  inStep_threeArguments inStep_expectText inStep_expectList)

/-! ## Functions on lists -/

namespace Collection

theorem inStep_toIndex {config : Config} {answer final : Value}
    (same : answer.Matches config calls final) :
    Program.InStep first second (· = ·) (toIndex one answer) (toIndex other final) := by
  cases answer with
  | list items =>
    obtain ⟨others, rfl, -⟩ := Value.matches_list_iff.1 same
    exact .failed _ _
  | map entries =>
    obtain ⟨others, rfl⟩ := same.exists_map
    exact .failed _ _
  | string text =>
    rw [same.eq_of_isScalar trivial]
    unfold toIndex
    dsimp only
    cases leadingInteger? text.toList with
    | none => exact .failed _ _
    | some n => exact .done rfl
  | int n =>
    rw [same.eq_of_isScalar trivial]
    exact .done rfl
  | float x =>
    rw [same.eq_of_isScalar trivial]
    exact .done rfl
  | _ =>
    rw [same.eq_of_isScalar trivial]
    exact .failed _ _

/-- Items that match stand at the same places. -/
theorem itemAt?_rel {related : Value → Value → Prop} {items others : List Value}
    (all : List.Forall₂ related items others) (index : Int64) :
    Option.Rel related (itemAt? items index) (itemAt? others index) := by
  unfold itemAt?
  split
  · exact .none
  · generalize index.toInt.toNat = place
    induction all generalizing place with
    | nil => exact .none
    | cons here _ ih =>
      cases place with
      | zero => exact .some here
      | succ place => exact ih place

theorem select_staysInStep (name : String) : Function.StaysInStep name select := by
  intro first second calls one other along
  refine (inStep_twoArguments along.items).bind ?_
  rintro ⟨index, list⟩ ⟨also, others⟩ ⟨place, items⟩
  refine inStep_reading along.config place fun answer final reads _ => ?_
  refine (inStep_toIndex reads.same).bind fun index again equal => ?_
  subst equal
  refine inStep_reading along.config items fun answer final reads _ => ?_
  refine (inStep_expectList reads.same "list").bind ?_
  rintro items others ⟨-, -, all⟩
  have found := itemAt?_rel all index
  generalize itemAt? items index = here at found
  generalize itemAt? others index = there at found
  cases found with
  | none => exact .failed _ _
  | some same => exact .done (.inr same)

theorem index_staysInStep : Function.StaysInStep "Index" index := by
  intro first second calls one other along
  refine (inStep_twoArguments along.items).bind fun arguments lasts asked => ?_
  refine inStep_bothKnown along.config asked fun list final value last reads data also known => ?_
  obtain rfl := reads.equal (by decide) data
  obtain rfl := also.equal (by decide) known
  refine (inStep_expectList reads.same "list").bind fun items others ⟨here, there, _⟩ => ?_
  cases here.symm.trans there
  split
  · exact inStep_scalar trivial
  · exact inStep_scalar trivial

theorem length_staysInStep (name : String) : Function.StaysInStep name length := by
  intro first second calls one other along
  refine (inStep_oneArgument along.items).bind fun argument last asked => ?_
  refine inStep_reading along.config asked fun answer final reads _ => ?_
  have same := reads.same
  cases answer with
  | list items =>
    obtain ⟨others, rfl, all⟩ := Value.matches_list_iff.1 same
    dsimp only
    rw [all.length_eq]
    exact inStep_scalar trivial
  | map entries =>
    obtain ⟨others, rfl⟩ := same.exists_map
    exact .failed _ _
  | string text =>
    rw [same.eq_of_isScalar trivial]
    exact inStep_scalar trivial
  | _ =>
    rw [same.eq_of_isScalar trivial]
    exact .failed _ _

theorem inStep_appendLists (config : other.scope.config = one.scope.config)
    {collected already arguments lasts : List Value}
    (so_far : List.Forall₂ (Value.Matches one.scope.config calls) collected already)
    (asked : List.Forall₂ (fun argument last =>
      Alike (Value.Matches one.scope.config calls) (first argument) (second last)) arguments
      lasts) :
    Program.InStep first second (one.EndsAlike calls other) (appendLists one collected arguments)
      (appendLists other already lasts) := by
  induction asked generalizing collected already with
  | nil => exact .done (.inr (Value.matches_list_iff.2 ⟨already, rfl, so_far⟩))
  | cons here _ ih =>
    refine inStep_matching config here fun answer final same => ?_
    refine (inStep_expectList same "element").bind ?_
    rintro items others ⟨-, -, all⟩
    exact ih (List.rel_append so_far all)

theorem listMerge_staysInStep (name : String) : Function.StaysInStep name listMerge := by
  intro first second calls one other along
  exact (inStep_allArguments along).bind fun _ _ => inStep_appendLists along.config .nil

/-- The values at a key of maps that match do, if those of calls do. -/
theorem inStep_project {config : Config} (key : String) {items others : List Value}
    (all : List.Forall₂ (Value.Matches config calls) items others)
    (exposed : List.Forall₂ (fun item last => item.isCall config = true →
      ∀ key, Option.Rel (Value.Matches config calls) (item.get? key) (last.get? key)) items
        others) :
    Program.InStep first second (List.Forall₂ (Value.Matches config calls))
      (project one key items) (project other key others) := by
  induction all with
  | nil => exact .done .nil
  | @cons item last items others same _ ih =>
    obtain ⟨call, rest⟩ := List.forall₂_cons.1 exposed
    cases item with
    | map entries =>
      obtain ⟨finals, rfl⟩ := same.exists_map
      have rel : Option.Rel (Value.Matches config calls) (Entries.get? entries key)
          (Entries.get? finals key) := by
        cases data : (Value.map entries).isCall config with
        | true => exact call data key
        | false =>
          obtain ⟨-, _, equal, children⟩ := (Value.matches_map_iff data).1 same
          cases equal
          exact EntryRel.get?_rel children key
      refine (ih rest).bind fun values lasts further => .done (.cons ?_ further)
      generalize Entries.get? entries key = here at rel
      generalize Entries.get? finals key = there at rel
      cases rel with
      | none => exact .scalar trivial
      | some same => exact same
    | list inner =>
      obtain ⟨finals, rfl, -⟩ := Value.matches_list_iff.1 same
      exact .failed _ _
    | _ =>
      rw [same.eq_of_isScalar trivial]
      exact .failed _ _

theorem selectMapList_staysInStep : Function.StaysInStep "SelectMapList" selectMapList := by
  intro first second calls one other along
  refine (inStep_twoArguments along.items).bind fun arguments lasts asked => ?_
  refine inStep_bothKnown along.config asked fun key final maps last reads _ also _ => ?_
  refine (inStep_expectText reads.same "key").bind ?_
  rintro text _ ⟨rfl, -⟩
  refine (inStep_expectList also.same "maps").bind ?_
  rintro items others ⟨rfl, rfl, all⟩
  have exposed := also.projected rfl items others rfl rfl
  refine (inStep_project text all exposed).bind fun values lasts further => ?_
  exact .done (.inr (Value.matches_list_iff.2 ⟨lasts, rfl, further⟩))

end Collection

/-! ## Functions on maps -/

namespace Mapping

theorem findInMap_staysInStep : Function.StaysInStep "FindInMap" findInMap := by
  intro first second calls one other along
  refine (inStep_threeArguments along.items).bind ?_
  rintro ⟨table, outer, inner⟩ ⟨also, top, sub⟩ ⟨asked, row, column⟩
  refine inStep_reading along.config asked fun answer final reads _ => ?_
  refine inStep_reading along.config row fun outer top upper data => ?_
  obtain rfl := upper.equal (by decide) data
  refine inStep_reading along.config column fun inner sub lower data => ?_
  obtain rfl := lower.equal (by decide) data
  refine (inStep_expectText reads.same "map").bind ?_
  rintro table _ ⟨rfl, -⟩
  have found := along.tables table outer.text inner.text
  generalize entry? one.scope.template table outer.text inner.text = here at found
  generalize entry? other.scope.template table outer.text inner.text = there at found
  cases found with
  | none => exact inStep_noted _ _
  | some given => exact (Program.InStep.resolved given).imp fun _ _ same => .inr same

theorem getJsonValue_staysInStep : Function.StaysInStep "GetJsonValue" getJsonValue := by
  intro first second calls one other along
  refine (inStep_twoArguments along.items).bind fun arguments lasts asked => ?_
  refine inStep_bothKnown along.config asked fun key final document last reads _ also _ => ?_
  refine (inStep_expectText reads.same "key").bind ?_
  rintro key _ ⟨rfl, -⟩
  refine (inStep_expectText also.same "json").bind ?_
  rintro text _ ⟨rfl, -⟩
  cases read : Json.read text with
  | error fault => exact .failed _ _
  | ok document =>
    cases document with
    | object entries =>
      dsimp only
      cases found : Entries.get? entries key with
      | none => exact inStep_keep
      | some value => exact .done (.inr (along.documents rfl text entries key value read found))
    | _ => exact .failed _ _

/-! ### Merging -/

/-- Maps that are being merged: they match, and neither is a call. -/
structure MergedAlike (config : Config) (calls : Value → Value → Prop)
    (target last : Entries Value) : Prop where
  data : (Value.map target).isCall config = false
  same : (Value.map target).Matches config calls (.map last)

/-- Both merges meet a call, or both fail, or both end with related results. -/
inductive MergeAlike {α β : Type} (related : α → β → Prop) :
    Except Obstacle α → Except Obstacle β → Prop
  | unknown : MergeAlike related (.error .unknown) (.error .unknown)
  | failed (error other : Error) :
      MergeAlike related (.error (.error error)) (.error (.error other))
  | merged {value : α} {last : β} (here : related value last) :
      MergeAlike related (.ok value) (.ok last)

theorem MergeAlike.bind {α β γ δ : Type} {related : α → β → Prop} {further : γ → δ → Prop}
    {here : Except Obstacle α} {there : Except Obstacle β} (alike : MergeAlike related here there)
    {next : α → Except Obstacle γ} {later : β → Except Obstacle δ}
    (rest : ∀ value last, related value last → MergeAlike further (next value) (later last)) :
    MergeAlike further (here >>= next) (there >>= later) := by
  cases alike with
  | unknown => exact .unknown
  | failed error other => exact .failed error other
  | merged here => exact rest _ _ here

variable {config : Config}

theorem MergedAlike.nil : MergedAlike config calls [] [] :=
  ⟨rfl, (Value.matches_map_iff rfl).2 ⟨List.nodup_nil, [], rfl, .nil⟩⟩

/-- Merging maps that match gives maps that match, and forms no call. -/
theorem MergedAlike.merge {target last entries finals : Entries Value}
    (so_far : MergedAlike config calls target last)
    (further : MergedAlike config calls entries finals) :
    MergedAlike config calls (target.merge entries) (last.merge finals) := by
  obtain ⟨distinct, _, same, all⟩ := (Value.matches_map_iff so_far.data).1 so_far.same
  obtain ⟨also, _, equal, children⟩ := (Value.matches_map_iff further.data).1 further.same
  cases same
  cases equal
  have data := Value.isCall_merge_eq_false also so_far.data further.data
  refine ⟨data, (Value.matches_map_iff data).2 ⟨distinct.merge entries, _, rfl, ?_⟩⟩
  exact EntryRel.merge all children

theorem mergeItem_alike (config : other.scope.config = one.scope.config)
    {target last : Entries Value} (so_far : MergedAlike one.scope.config calls target last)
    {item final : Value} (same : item.Matches one.scope.config calls final) :
    MergeAlike (MergedAlike one.scope.config calls) (mergeItem one target item)
      (mergeItem other last final) := by
  unfold mergeItem Invocation.isCall
  rw [config, ← same.isCall_eq]
  cases data : item.isCall one.scope.config with
  | true => exact .unknown
  | false =>
    cases item with
    | list items =>
      obtain ⟨others, rfl, -⟩ := Value.matches_list_iff.1 same
      exact .failed _ _
    | map entries =>
      obtain ⟨others, rfl⟩ := same.exists_map
      exact .merged (so_far.merge ⟨data, same⟩)
    | _ =>
      rw [same.eq_of_isScalar trivial]
      exact .failed _ _

theorem mergeItems_alike (config : other.scope.config = one.scope.config)
    {targets lasts : List (Entries Value)}
    (so_far : List.Forall₂ (MergedAlike one.scope.config calls) targets lasts)
    {items finals : List Value}
    (all : List.Forall₂ (Value.Matches one.scope.config calls) items finals) :
    MergeAlike (List.Forall₂ (MergedAlike one.scope.config calls)) (mergeItems one targets items)
      (mergeItems other lasts finals) := by
  induction so_far generalizing items finals with
  | nil =>
    unfold mergeItems
    exact .merged .nil
  | cons here rest ih =>
    cases all with
    | nil => exact .merged (.cons here rest)
    | cons same others =>
      unfold mergeItems
      refine (mergeItem_alike config here same).bind fun target last first => ?_
      exact (ih others).bind fun _ _ further => .merged (.cons first further)

theorem mergeable_alike {list final : Value} (same : list.Matches config calls final) :
    MergeAlike (List.Forall₂ (Value.Matches config calls)) (mergeable one list)
      (mergeable other final) := by
  cases list with
  | list items =>
    obtain ⟨others, rfl, all⟩ := Value.matches_list_iff.1 same
    exact .merged all
  | map entries =>
    obtain ⟨others, rfl⟩ := same.exists_map
    exact .failed _ _
  | _ =>
    rw [same.eq_of_isScalar trivial]
    exact .failed _ _

theorem mergeLists_alike (config : other.scope.config = one.scope.config)
    {targets lasts : List (Entries Value)}
    (so_far : List.Forall₂ (MergedAlike one.scope.config calls) targets lasts)
    {lists finals : List Value}
    (all : List.Forall₂ (Value.Matches one.scope.config calls) lists finals) :
    MergeAlike (List.Forall₂ (MergedAlike one.scope.config calls)) (mergeLists one targets lists)
      (mergeLists other lasts finals) := by
  induction all generalizing targets lasts with
  | nil => exact .merged so_far
  | cons same _ ih =>
    unfold mergeLists
    refine (mergeable_alike same).bind fun items others here => ?_
    rw [here.length_eq, so_far.length_eq]
    split
    · exact .failed _ _
    · exact (mergeItems_alike config so_far here).bind fun _ _ next => ih next

theorem merge_alike (config : other.scope.config = one.scope.config) {lists finals : List Value}
    (all : List.Forall₂ (Value.Matches one.scope.config calls) lists finals) :
    MergeAlike (List.Forall₂ (MergedAlike one.scope.config calls)) (Mapping.merge one lists)
      (Mapping.merge other finals) := by
  cases all with
  | nil => exact .merged .nil
  | cons same rest =>
    refine (mergeable_alike same).bind fun items others here => ?_
    refine mergeLists_alike config ?_ (.cons same rest)
    rw [List.forall₂_map_left_iff, List.forall₂_map_right_iff]
    exact here.imp fun _ _ _ => .nil

theorem mergeMapToList_staysInStep (name : String) : Function.StaysInStep name mergeMapToList := by
  intro first second calls one other along
  refine (inStep_allArguments along).bind fun arguments lasts asked => ?_
  refine inStep_allKnown along.config asked fun lists finals all => ?_
  have alike := merge_alike along.config all
  generalize Mapping.merge one lists = here at alike
  generalize Mapping.merge other finals = there at alike
  cases alike with
  | unknown => exact inStep_keep
  | failed error other => exact .failed error other
  | merged same =>
    refine .done (.inr (Value.matches_list_iff.2 ⟨_, rfl, ?_⟩))
    rw [List.forall₂_map_left_iff, List.forall₂_map_right_iff]
    exact same.imp fun _ _ merged => merged.same

end Mapping

end CloudTemplate

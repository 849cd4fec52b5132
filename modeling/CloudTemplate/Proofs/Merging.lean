import Mathlib.Data.List.Induction
import CloudTemplate.Proofs.Shape

/-!
# Merging lists of maps

Lists of maps of equal length are merged place by place. At every place stand as many maps as there
are lists, and what is made of them is their *overlay*: it has the keys that one of them has, in the
order in which they first occur, and at each key the value of the last map that has it (`Overlay`).

Merging goes through the lists one after the other and keeps a map for each place. The loop
invariant is that this map is the overlay of the maps seen so far at its place (`Overlay.merge`), so
at the end it is that of all of them (`overlay_stacked`). Lists of maps that are no calls are merged
without an obstacle (`Mapping.merge_of_data`), and no overlay of such maps is a call, although a map
with a single key can be one (`isCall_stacked`).
-/

set_option autoImplicit false

namespace CloudTemplate

/-! ## Overlays -/

/-- The map is what maps that come one after the other make up together. Its keys are those of the
maps in the order in which they first occur, and the last map that has a key decides its value. -/
structure Overlay (maps : List (Entries Value)) (whole : Entries Value) : Prop where
  keys_eq : whole.keys = (maps.flatMap Entries.keys).eraseDups
  get?_eq : ∀ key, whole.get? key = maps.reverse.findSome? fun map => Entries.get? map key

/-- Nothing is removed from keys that differ. -/
theorem eraseDups_of_nodup {keys : List String} (distinct : keys.Nodup) :
    keys.eraseDups = keys := by
  induction keys with
  | nil => rfl
  | cons key keys ih =>
    obtain ⟨absent, rest⟩ := List.nodup_cons.1 distinct
    have others : keys.filter (fun other => !other == key) = keys := by
      refine List.filter_eq_self.2 fun other member => ?_
      have differs : other ≠ key := fun same => absent (same ▸ member)
      simpa using differs
    rw [List.eraseDups_cons, others, ih rest]

namespace Overlay

variable {maps : List (Entries Value)} {whole : Entries Value}

theorem nil : Overlay [] [] :=
  ⟨rfl, fun _ => rfl⟩

/-- A key is there exactly when one of the maps has it. -/
theorem mem_keys_iff (overlay : Overlay maps whole) (key : String) :
    key ∈ whole.keys ↔ ∃ map ∈ maps, key ∈ map.keys := by
  rw [overlay.keys_eq, List.mem_eraseDups, List.mem_flatMap]

/-- **One more map** is laid over the others by merging it into their overlay. -/
theorem merge (overlay : Overlay maps whole) {map : Entries Value} (distinct : map.Distinct) :
    Overlay (maps ++ [map]) (whole.merge map) := by
  constructor
  · have fresh : map.keys.removeAll (maps.flatMap Entries.keys) =
        map.keys.filter (· ∉ whole.keys) := by
      refine List.filter_congr fun key _ => ?_
      simp only [overlay.keys_eq, List.elem_eq_mem, List.mem_eraseDups, decide_not]
    rw [Entries.keys_merge whole distinct, List.flatMap_append, List.eraseDups_append,
      ← overlay.keys_eq, List.flatMap_singleton, fresh, eraseDups_of_nodup (distinct.filter _)]
  · intro key
    rw [Entries.get?_merge whole distinct, overlay.get?_eq, List.reverse_append,
      List.reverse_singleton, List.singleton_append, List.findSome?_cons]
    cases Entries.get? map key <;> rfl

end Overlay

/-! ## Stacks of maps -/

/-- Merges maps that come one after the other. -/
def stacked (maps : List (Entries Value)) : Entries Value :=
  maps.foldl Entries.merge []

theorem stacked_append (maps : List (Entries Value)) (map : Entries Value) :
    stacked (maps ++ [map]) = (stacked maps).merge map :=
  List.foldl_append

/-- **Maps that are merged one after the other become their overlay.** -/
theorem overlay_stacked {maps : List (Entries Value)}
    (distinct : ∀ map ∈ maps, Entries.Distinct map) : Overlay maps (stacked maps) := by
  induction maps using List.reverseRecOn with
  | nil => exact .nil
  | append_singleton maps map ih =>
    obtain ⟨before, last⟩ := List.forall_mem_append.1 distinct
    rw [stacked_append]
    exact (ih before).merge (last map List.mem_cons_self)

/-- **No merged map is a call**, if none of the maps is. -/
theorem isCall_stacked {config : Config} {maps : List (Entries Value)}
    (distinct : ∀ map ∈ maps, Entries.Distinct map)
    (data : ∀ map ∈ maps, (Value.map map).isCall config = false) :
    (Value.map (stacked maps)).isCall config = false := by
  induction maps using List.reverseRecOn with
  | nil => rfl
  | append_singleton maps map ih =>
    obtain ⟨before, last⟩ := List.forall_mem_append.1 distinct
    obtain ⟨plain, other⟩ := List.forall_mem_append.1 data
    rw [stacked_append]
    exact Value.isCall_merge_eq_false (last map List.mem_cons_self) (ih before plain)
      (other map List.mem_cons_self)

/-! ## Lists of maps -/

/-- The maps that lists have at a position, in the order of the lists. -/
def column (lists : List (List (Entries Value))) (position : Nat) : List (Entries Value) :=
  lists.filterMap fun list => list[position]?

theorem mem_of_mem_column {lists : List (List (Entries Value))} {position : Nat}
    {map : Entries Value} (member : map ∈ column lists position) :
    ∃ list ∈ lists, map ∈ list := by
  obtain ⟨list, listed, found⟩ := List.mem_filterMap.1 member
  exact ⟨list, listed, List.mem_of_getElem? found⟩

theorem length_zipWith_merge {targets maps : List (Entries Value)}
    (even : maps.length = targets.length) :
    (List.zipWith Entries.merge targets maps).length = targets.length := by
  rw [List.length_zipWith, even, Nat.min_self]

/-- Lists of equal length are merged place by place. -/
theorem getElem?_foldl_zipWith {targets : List (Entries Value)}
    {lists : List (List (Entries Value))} (even : ∀ list ∈ lists, list.length = targets.length)
    (position : Nat) :
    (lists.foldl (List.zipWith Entries.merge) targets)[position]? =
      targets[position]?.map fun target => (column lists position).foldl Entries.merge target := by
  induction lists generalizing targets with
  | nil => exact Option.map_id'.symm
  | cons list lists ih =>
    obtain ⟨here, others⟩ := List.forall_mem_cons.1 even
    have still := length_zipWith_merge here
    rw [List.foldl_cons, ih fun other member => (others other member).trans still.symm,
      List.getElem?_zipWith]
    unfold column
    by_cases inside : position < targets.length
    · rw [List.getElem?_eq_getElem inside, List.getElem?_eq_getElem (here ▸ inside),
        List.filterMap_cons, List.getElem?_eq_getElem (here ▸ inside)]
      rfl
    · rw [List.getElem?_eq_none (Nat.le_of_not_lt inside)]
      rfl

/-- There are as many merged maps as there are maps in each list. -/
theorem length_foldl_zipWith {targets : List (Entries Value)}
    {lists : List (List (Entries Value))} (even : ∀ list ∈ lists, list.length = targets.length) :
    (lists.foldl (List.zipWith Entries.merge) targets).length = targets.length := by
  induction lists generalizing targets with
  | nil => rfl
  | cons list lists ih =>
    obtain ⟨here, others⟩ := List.forall_mem_cons.1 even
    have still := length_zipWith_merge here
    exact (ih fun other member => (others other member).trans still.symm).trans still

namespace Mapping

variable {call : Invocation}

theorem mergeItems_of_data {targets maps : List (Entries Value)}
    (even : targets.length = maps.length)
    (data : ∀ map ∈ maps, call.isCall (.map map) = false) :
    mergeItems call targets (maps.map .map) = .ok (List.zipWith Entries.merge targets maps) := by
  induction targets generalizing maps with
  | nil =>
    cases maps with
    | nil => rfl
    | cons map maps => cases even
  | cons target targets ih =>
    cases maps with
    | nil => cases even
    | cons map maps =>
      obtain ⟨here, others⟩ := List.forall_mem_cons.1 data
      have first : mergeItem call target (.map map) = .ok (target.merge map) := by
        unfold mergeItem
        rw [here]
        rfl
      rw [List.map_cons, mergeItems, first, ih (Nat.succ.inj even) others]
      rfl

/-- Lists of maps that are no calls are merged into those collected so far, if there are as many. -/
theorem mergeLists_of_data {targets : List (Entries Value)} {lists : List (List (Entries Value))}
    (even : ∀ list ∈ lists, list.length = targets.length)
    (data : ∀ list ∈ lists, ∀ map ∈ list, call.isCall (.map map) = false) :
    mergeLists call targets (lists.map fun list => .list (list.map .map)) =
      .ok (lists.foldl (List.zipWith Entries.merge) targets) := by
  induction lists generalizing targets with
  | nil => rfl
  | cons list lists ih =>
    obtain ⟨length, others⟩ := List.forall_mem_cons.1 even
    obtain ⟨here, later⟩ := List.forall_mem_cons.1 data
    have still := length_zipWith_merge length
    have accepted : ¬(list.map Value.map).length ≠ targets.length := by
      rw [List.length_map]
      exact not_not_intro length
    change (if (list.map Value.map).length ≠ targets.length then _ else _ :
      Except Obstacle (List (Entries Value))) = _
    rw [if_neg accepted, mergeItems_of_data length.symm here]
    exact ih (fun other member => (others other member).trans still.symm) later

theorem merge_of_data {lists : List (List (Entries Value))} (nonempty : lists ≠ []) {length : Nat}
    (even : ∀ list ∈ lists, list.length = length)
    (data : ∀ list ∈ lists, ∀ map ∈ list, call.isCall (.map map) = false) :
    merge call (lists.map fun list => .list (list.map .map)) =
      .ok (lists.foldl (List.zipWith Entries.merge) (List.replicate length [])) := by
  cases lists with
  | nil => exact absurd rfl nonempty
  | cons list lists =>
    have places : ((list.map Value.map).map fun _ => ([] : Entries Value)) =
        List.replicate length [] := by
      rw [List.map_const', List.length_map, even list List.mem_cons_self]
    change mergeLists call ((list.map Value.map).map fun _ => []) _ = _
    rw [places]
    refine mergeLists_of_data (fun other member => ?_) data
    rw [even other member, List.length_replicate]

end Mapping

namespace Resolver

/-- **Lists of maps are merged place by place, and the last one wins.** If the arguments of a call
resolve to lists of maps that have the same length and are no calls, the result is a list of as many
maps. Each of them is the overlay of the maps at its position, and no call. -/
theorem resolve_mergeMapToList {scope : Scope} (mark : scope.config.functionMark = "Fn::")
    (reference : "Fn::MergeMapToList" ≠ scope.config.referenceKey) {levels : Nat}
    (depth : scope.config.maxDepth = levels + 1) {arguments : List Value}
    {lists : List (List (Entries Value))}
    (resolved : List.Forall₂ (fun argument list =>
      outcome Registry.standard scope levels argument = .ok (.list (list.map .map)))
      arguments lists)
    (nonempty : lists ≠ []) {length : Nat} (even : ∀ list ∈ lists, list.length = length)
    (distinct : ∀ list ∈ lists, ∀ map ∈ list, Entries.Distinct map)
    (data : ∀ list ∈ lists, ∀ map ∈ list, (Value.map map).isCall scope.config = false)
    (trail : Trail) :
    ∃ merged : List (Entries Value),
      (resolve Registry.standard scope
        (.ofCall "Fn::MergeMapToList" (.list arguments))).resultFrom trail =
          .ok (.list (merged.map .map)) ∧
      merged.length = length ∧
      ∀ position whole, merged[position]? = some whole →
        Overlay (column lists position) whole ∧
          (∀ key, key ∈ whole.keys ↔ ∃ map ∈ column lists position, key ∈ map.keys) ∧
          (Value.map whole).isCall scope.config = false := by
  have places : ∀ list ∈ lists, list.length = (List.replicate length ([] : Entries Value)).length :=
    fun list listed => (even list listed).trans List.length_replicate.symm
  refine ⟨lists.foldl (List.zipWith Entries.merge) (List.replicate length []), ?_, ?_, ?_⟩
  · have known : List.Forall₂ (fun argument value =>
        outcome Registry.standard scope levels argument = .ok value ∧
          value.isCall scope.config = false)
        arguments (lists.map fun list => .list (list.map .map)) :=
      List.forall₂_map_right_iff.2 (resolved.imp fun _ _ here => ⟨here, rfl⟩)
    have named : Text.after? "Fn::".toList "Fn::MergeMapToList".toList =
        some "MergeMapToList".toList := rfl
    have is_call := Value.call?_ofCall mark reference named (.list arguments)
    let call : Invocation := ⟨"Fn::MergeMapToList", "MergeMapToList", .list arguments, scope⟩
    have merges : Mapping.merge call (lists.map fun list => .list (list.map .map)) = _ :=
      Mapping.merge_of_data nonempty even data
    rw [resolve_yields, depth, outcome_function levels is_call rfl]
    change (call.allKnown arguments _).outcome _ = _
    rw [call.outcome_allKnown known, merges]
    rfl
  · rw [length_foldl_zipWith places, List.length_replicate]
  · intro position whole found
    have inside : ∀ map ∈ column lists position, Entries.Distinct map ∧
        (Value.map map).isCall scope.config = false := by
      intro map member
      obtain ⟨list, listed, among⟩ := mem_of_mem_column member
      exact ⟨distinct list listed map among, data list listed map among⟩
    rw [getElem?_foldl_zipWith places, List.getElem?_replicate] at found
    split at found
    · cases found
      have overlay := overlay_stacked fun map member => (inside map member).1
      exact ⟨overlay, overlay.mem_keys_iff, isCall_stacked (fun map member => (inside map member).1)
        fun map member => (inside map member).2⟩
    · cases found

/-- Three lists of two maps. -/
def tagLists : List (List (Entries Value)) :=
  [[[("Name", .string "a"), ("Size", .int 1)], []],
    [[("Size", .int 2), ("Zone", .string "z")], [("Name", .string "b")]],
    [[("Name", .string "c")], []]]

/-- The call that merges them, the second of which is a parameter. -/
def tagArguments : List Value :=
  [.list [.map [("Name", .string "a"), ("Size", .int 1)], .map []], .ofCall "Ref" (.string "More"),
    .list [.map [("Name", .string "c")], .map []]]

/-- The scope with the parameter. -/
def tagListScope : Scope where
  config := Config.standard
  parameters := [("More",
    .list [.map [("Size", .int 2), ("Zone", .string "z")], .map [("Name", .string "b")]])]
  template := .null

/-- The name in the first map is that of the last list and stays at the front. The second map has
one key, from the only list that has one there. -/
theorem resolve_mergeMapToList_tagLists :
    ∃ first second : Entries Value,
      (resolve Registry.standard tagListScope
        (.ofCall "Fn::MergeMapToList" (.list tagArguments))).resultFrom {} =
          .ok (.list [.map first, .map second]) ∧
      first.keys = ["Name", "Size", "Zone"] ∧ first.get? "Name" = some (.string "c") ∧
      first.get? "Size" = some (.int 2) ∧ second.keys = ["Name"] ∧
      (Value.map second).isCall Config.standard = false := by
  have differs : "Fn::MergeMapToList" ≠ tagListScope.config.referenceKey := by decide
  have depth : tagListScope.config.maxDepth = (tagListScope.config.maxDepth - 1) + 1 := rfl
  obtain ⟨merged, computed, length, places⟩ := @resolve_mergeMapToList tagListScope rfl differs _
    depth tagArguments tagLists (.cons rfl (.cons rfl (.cons rfl .nil))) (List.cons_ne_nil _ _) 2
    (by decide) (by decide) (by decide) {}
  match merged, length with
  | [first, second], _ =>
    obtain ⟨overlay, -, -⟩ := places 0 first rfl
    obtain ⟨other, -, data⟩ := places 1 second rfl
    refine ⟨first, second, computed, overlay.keys_eq.trans ?_, (overlay.get?_eq _).trans rfl,
      (overlay.get?_eq _).trans rfl, other.keys_eq.trans ?_, data⟩
    · decide
    · decide

end Resolver

end CloudTemplate

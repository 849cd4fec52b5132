import Mathlib.Order.WellFounded
import Mathlib.Data.Fintype.Pigeonhole
import Mathlib.Data.Set.Finite.Basic
import Mathlib.Logic.Relation
import CloudTemplate.Proofs.Condition.References

/-!
# What the order of conditions gives

The work on an order keeps an invariant (`Graph.Sorting.Progress`): a condition waits for its
references that have not been placed, what waits for nothing has been placed or is ready, and what
has been placed came after its references. Placing a condition keeps it
(`Graph.Sorting.Progress.place`), and so does the whole run, in which nothing is released that
waits for nothing (`Graph.Sorting.Progress.waits_of_release`).

At the end nothing is ready. Then exactly those conditions have been placed from which no infinite
chain of references starts, and since there are finitely many conditions, the others are on a
circle of references or lead to one (`acc_iff_not_reachesCircle`). This gives the order, or the
conditions without one (`order_exact`).
-/

set_option autoImplicit false

namespace CloudTemplate.Condition

theorem not_mem_of_nodup_middle {α : Type} {name : α} {before after : List α}
    (distinct : (before ++ name :: after).Nodup) : name ∉ before := fun member =>
  (List.nodup_cons.1 (List.nodup_middle.1 distinct)).1 (List.mem_append_left after member)

/-! ## Circles -/

section Circles

variable {α : Type} {refers : α → α → Prop}

/-- The second leads to itself, and the first leads to it or is it. -/
def ReachesCircle (refers : α → α → Prop) (name : α) : Prop :=
  ∃ other, Relation.ReflTransGen refers name other ∧ Relation.TransGen refers other other

theorem not_reachesCircle_of_acc {name : α}
    (grounded : Acc (fun other name => refers name other) name) :
    ¬ReachesCircle refers name := by
  induction grounded with
  | intro name _ ih =>
    rintro ⟨other, reach, circle⟩
    rcases reach.cases_head with rfl | ⟨next, step, further⟩
    · obtain ⟨next, step, back⟩ := Relation.TransGen.head'_iff.1 circle
      exact ih next step ⟨name, back, circle⟩
    · exact ih next step ⟨other, further, circle⟩

/-- Where finitely many can be referred to, every infinite chain runs into a circle. -/
theorem acc_iff_not_reachesCircle {names : List α}
    (declared : ∀ name other, refers name other → other ∈ names) {name : α} :
    Acc (fun other name => refers name other) name ↔ ¬ReachesCircle refers name := by
  refine ⟨not_reachesCircle_of_acc, fun free => ?_⟩
  by_contra endless
  obtain ⟨chain, start, step⟩ := not_acc_iff_exists_descending_chain.1 endless
  have inside : ∀ n, chain (n + 1) ∈ names := fun n => declared _ _ (step n)
  have : Finite { name // name ∈ names } := (List.finite_toSet names).to_subtype
  obtain ⟨i, j, differ, same⟩ := Finite.exists_ne_map_eq_of_infinite
    fun n => (⟨chain (n + 1), inside n⟩ : { name // name ∈ names })
  have again : chain (i + 1) = chain (j + 1) := congrArg Subtype.val same
  have forward : ∀ {m n : Nat}, m < n → Relation.TransGen refers (chain m) (chain n) :=
    fun less => Nat.rel_of_forall_rel_succ_of_lt _ (fun n => .single (step n)) less
  refine free ⟨chain (i + 1), ?_, ?_⟩
  · rw [← start]
    exact (forward (Nat.succ_pos i)).to_reflTransGen
  · rcases Nat.lt_or_gt_of_ne differ with less | less
    · have circle := forward (Nat.succ_lt_succ less)
      rwa [← again] at circle
    · have circle := forward (Nat.succ_lt_succ less)
      rwa [← again] at circle

end Circles

namespace Graph

variable {graph : Graph}

theorem mem_dependents_iff (sound : graph.Sound) {name other : String} :
    other ∈ graph.dependents name ↔ graph.Refers other name := by
  unfold dependents Refers
  by_cases known : name ∈ graph.names
  · rw [if_pos known]
    refine (Entries.mem_keys_filter_iff sound.names_nodup (·.contains name) other).trans ?_
    simp only [List.contains_iff_mem]
  · rw [if_neg known]
    constructor
    · exact fun member => absurd member List.not_mem_nil
    · exact fun refers => absurd (sound.declared other name refers) known

theorem dependents_nodup (sound : graph.Sound) (name : String) : (graph.dependents name).Nodup := by
  unfold dependents
  split
  · exact sound.names_nodup.sublist (List.filter_sublist.map Prod.fst)
  · exact List.nodup_nil

namespace Sorting

/-! ## Releasing -/

/-- Releasing a condition changes what it waits for and nothing else that is waited for. -/
theorem get?_waiting_release (sorting : Sorting) (name other : String) :
    (sorting.release name).waiting.get? other =
      if other = name then (sorting.waiting.get? other).map (· - 1)
      else sorting.waiting.get? other := by
  unfold release
  cases found : sorting.waiting.get? name with
  | none =>
    by_cases same : other = name
    · rw [if_pos same, same]
      dsimp only
      rw [found]
      rfl
    · rw [if_neg same]
  | some count =>
    dsimp only
    rw [Entries.get?_insert]
    by_cases same : other = name
    · rw [if_pos same, if_pos same.symm, same, found]
      rfl
    · rw [if_neg same, if_neg fun other_way => same other_way.symm]

theorem keys_waiting_release (sorting : Sorting) (name : String) :
    (sorting.release name).waiting.keys = sorting.waiting.keys := by
  unfold release
  cases found : sorting.waiting.get? name with
  | none => rfl
  | some count =>
    have known : name ∈ sorting.waiting.keys := Entries.mem_keys_of_get?_eq_some found
    dsimp only
    rw [Entries.keys_insert, if_pos known]

theorem placed_release (sorting : Sorting) (name : String) :
    (sorting.release name).placed = sorting.placed := by
  unfold release
  cases sorting.waiting.get? name <;> rfl

theorem ready_release (sorting : Sorting) (name : String) :
    (sorting.release name).ready =
      sorting.ready ++ [name].filter fun name => sorting.waiting.get? name = some 1 := by
  unfold release
  cases found : sorting.waiting.get? name with
  | none => simp [found]
  | some count =>
    by_cases last : count = 1
    · simp [found, last]
    · simp [found, last]

section ReleaseAll

variable {names : List String} (distinct : names.Nodup) (sorting : Sorting)

theorem keys_waiting_releaseAll (names : List String) (sorting : Sorting) :
    (names.foldl release sorting).waiting.keys = sorting.waiting.keys := by
  induction names generalizing sorting with
  | nil => rfl
  | cons name names ih => rw [List.foldl_cons, ih, keys_waiting_release]

theorem placed_releaseAll (names : List String) (sorting : Sorting) :
    (names.foldl release sorting).placed = sorting.placed := by
  induction names generalizing sorting with
  | nil => rfl
  | cons name names ih => rw [List.foldl_cons, ih, placed_release]

include distinct

/-- Each of the released conditions waits for one reference less. -/
theorem get?_waiting_releaseAll (other : String) :
    (names.foldl release sorting).waiting.get? other =
      if other ∈ names then (sorting.waiting.get? other).map (· - 1)
      else sorting.waiting.get? other := by
  induction names generalizing sorting with
  | nil => simp
  | cons name names ih =>
    obtain ⟨absent, rest⟩ := List.nodup_cons.1 distinct
    rw [List.foldl_cons, ih rest, get?_waiting_release]
    by_cases here : other = name
    · subst here
      simp [absent]
    · simp [here]

/-- Those become ready that waited for one reference only. -/
theorem ready_releaseAll :
    (names.foldl release sorting).ready =
      sorting.ready ++ names.filter fun name => sorting.waiting.get? name = some 1 := by
  induction names generalizing sorting with
  | nil => simp
  | cons name names ih =>
    obtain ⟨absent, rest⟩ := List.nodup_cons.1 distinct
    have same : names.filter (fun other => (sorting.release name).waiting.get? other = some 1) =
        names.filter fun other => sorting.waiting.get? other = some 1 := by
      refine List.filter_congr fun other member => ?_
      have differs : other ≠ name := fun same => absent (same ▸ member)
      rw [get?_waiting_release, if_neg differs]
    rw [List.foldl_cons, ih rest, ready_release, same, List.append_assoc, ← List.filter_append,
      List.singleton_append]

end ReleaseAll

/-! ## Progress -/

/-- What holds all the time during the work on an order. -/
structure Progress (graph : Graph) (sorting : Sorting) : Prop where
  keys : sorting.waiting.keys = graph.names
  /-- A condition waits for its references that have not been placed. -/
  waits : ∀ name others, graph.edges.get? name = some others →
    sorting.waiting.get? name = some (others.filter (· ∉ sorting.placed)).length
  nodup : (sorting.placed ++ sorting.ready).Nodup
  /-- What waits for nothing has been placed, or is ready. -/
  free : ∀ name, name ∈ sorting.placed ++ sorting.ready ↔ sorting.waiting.get? name = some 0
  /-- What has been placed has been placed after its references. -/
  after : ∀ newer name older, sorting.placed = newer ++ name :: older →
    ∀ other, graph.Refers name other → other ∈ older

theorem start_progress (sound : graph.Sound) : Progress graph (start graph) := by
  have counts : ∀ name, graph.inDegrees.get? name = (graph.edges.get? name).map List.length :=
    Entries.get?_map List.length graph.edges
  have keys : graph.inDegrees.keys = graph.names := by
    simp [inDegrees, Graph.names, Entries.keys]
  have distinct : graph.inDegrees.Distinct := by
    unfold Entries.Distinct
    rw [keys]
    exact sound.names_nodup
  refine ⟨keys, ?_, ?_, ?_, ?_⟩
  · intro name others found
    refine (counts name).trans ?_
    rw [found]
    simp [start]
  · exact distinct.sublist (List.filter_sublist.map Prod.fst)
  · intro name
    refine (Entries.mem_keys_filter_iff distinct (fun count => decide (count = 0)) name).trans ?_
    simp [start]
  · intro newer name older empty
    exact absurd empty.symm (by simp [start])

/-- Placing a name takes it from those that are waited for. -/
theorem length_filter_not_mem {others placed : List String} {name : String}
    (distinct : others.Nodup) (fresh : name ∉ placed) :
    (others.filter (· ∉ name :: placed)).length =
      if name ∈ others then (others.filter (· ∉ placed)).length - 1
      else (others.filter (· ∉ placed)).length := by
  have erased : others.filter (· ∉ name :: placed) = (others.filter (· ∉ placed)).erase name := by
    rw [(distinct.filter _).erase_eq_filter, List.filter_filter]
    refine List.filter_congr fun other _ => ?_
    simp [bne, beq_eq_decide]
  rw [erased, List.length_erase]
  simp [fresh]

variable {sorting : Sorting}

theorem Progress.mem_names (progress : Progress graph sorting) {name : String}
    (member : name ∈ sorting.placed ++ sorting.ready) : name ∈ graph.names := by
  rw [← progress.keys]
  exact Entries.mem_keys_of_get?_eq_some ((progress.free name).1 member)

/-- What waits for nothing has its references placed. -/
theorem Progress.placed_of_refers (progress : Progress graph sorting) {name other : String}
    (member : name ∈ sorting.placed ++ sorting.ready) (refers : graph.Refers name other) :
    other ∈ sorting.placed := by
  obtain ⟨others, found, listed⟩ := refers
  have waits := progress.waits name others found
  rw [(progress.free name).1 member, Option.some.injEq, eq_comm, List.length_eq_zero_iff,
    List.filter_eq_nil_iff] at waits
  simpa using waits other listed

/-- What a condition waits for that refers to one that has not been placed. -/
theorem Progress.waits_pos (progress : Progress graph sorting) {name other : String}
    (fresh : other ∉ sorting.placed) (refers : graph.Refers name other) :
    ∃ count, sorting.waiting.get? name = some (count + 1) := by
  obtain ⟨others, found, listed⟩ := refers
  have waiting : 0 < (others.filter (· ∉ sorting.placed)).length :=
    List.length_pos_of_mem (List.mem_filter.2 ⟨listed, decide_eq_true fresh⟩)
  obtain ⟨count, same⟩ := Nat.exists_eq_add_one.2 waiting
  exact ⟨count, (progress.waits name others found).trans (congrArg some same)⟩

/-- The work with the first of those that are ready taken from them and placed. -/
def placing (sorting : Sorting) (name : String) (ready : List String) : Sorting :=
  { sorting with ready, placed := name :: sorting.placed }

@[simp] theorem waiting_placing (name : String) (ready : List String) :
    (sorting.placing name ready).waiting = sorting.waiting := rfl

@[simp] theorem ready_placing (name : String) (ready : List String) :
    (sorting.placing name ready).ready = ready := rfl

@[simp] theorem placed_placing (name : String) (ready : List String) :
    (sorting.placing name ready).placed = name :: sorting.placed := rfl

/-- **Placing a condition that is ready keeps the invariant.** -/
theorem Progress.place (sound : graph.Sound) (progress : Progress graph sorting) {name : String}
    {ready : List String} (first : sorting.ready = name :: ready) :
    Progress graph ((graph.dependents name).foldl release (sorting.placing name ready)) := by
  have distinct := dependents_nodup sound name
  have here : name ∈ sorting.placed ++ sorting.ready := by
    rw [first]
    exact List.mem_append_right _ List.mem_cons_self
  have before : ∀ other, other ∈ name :: sorting.placed ++ ready ↔
      sorting.waiting.get? other = some 0 := by
    intro other
    rw [← progress.free other, first]
    simp only [List.cons_append, List.mem_cons, List.mem_append]
    exact or_left_comm
  have nodup := progress.nodup
  rw [first] at nodup
  have fresh : name ∉ sorting.placed := not_mem_of_nodup_middle nodup
  refine ⟨?_, ?_, ?_, ?_, ?_⟩
  · rw [keys_waiting_releaseAll]
    exact progress.keys
  · intro other others found
    have refers : other ∈ graph.dependents name ↔ name ∈ others := by
      rw [mem_dependents_iff sound]
      constructor
      · rintro ⟨again, same, member⟩
        rw [found] at same
        cases same
        exact member
      · exact fun member => ⟨others, found, member⟩
    rw [get?_waiting_releaseAll distinct, placed_releaseAll,
      placed_placing, waiting_placing,
      length_filter_not_mem (sound.edges_nodup other others found) fresh,
      progress.waits other others found]
    by_cases member : name ∈ others
    · rw [if_pos (refers.2 member), if_pos member]
      rfl
    · rw [if_neg fun dependent => member (refers.1 dependent), if_neg member]
  · rw [placed_releaseAll, ready_releaseAll distinct, ← List.append_assoc, placed_placing,
      ready_placing]
    refine List.nodup_append'.2 ⟨List.nodup_middle.1 nodup, distinct.filter _,
      fun other old new => ?_⟩
    obtain ⟨_, one⟩ := List.mem_filter.1 new
    have none := (before other).1 old
    simp [none] at one
  · intro other
    rw [placed_releaseAll, ready_releaseAll distinct, ← List.append_assoc, List.mem_append,
      placed_placing, ready_placing, List.mem_filter, before other,
      get?_waiting_releaseAll distinct]
    by_cases dependent : other ∈ graph.dependents name
    · obtain ⟨count, waits⟩ := progress.waits_pos fresh ((mem_dependents_iff sound).1 dependent)
      simp [dependent, waits]
    · simp [dependent]
  · intro newer other older split
    rw [placed_releaseAll, placed_placing] at split
    cases newer with
    | nil =>
      cases split
      exact fun reference refers => progress.placed_of_refers here refers
    | cons newest newer => exact progress.after newer other older (List.cons.inj split).2

/-- The run keeps the invariant. -/
theorem Progress.run (sound : graph.Sound) (limit : Nat) (progress : Progress graph sorting) :
    Progress graph (run graph limit sorting) := by
  induction limit generalizing sorting with
  | zero => exact progress
  | succ limit ih =>
    unfold Sorting.run
    cases first : sorting.ready with
    | nil => exact progress
    | cons name ready => exact ih (progress.place sound first)

theorem Progress.length_le (progress : Progress graph sorting) :
    sorting.placed.length + sorting.ready.length ≤ graph.size := by
  have inside : sorting.placed ++ sorting.ready ⊆ graph.names :=
    fun _ member => progress.mem_names member
  have bound := progress.nodup.length_le_of_subset inside
  rw [List.length_append] at bound
  simpa [names, Entries.keys, size] using bound

/-- A run that may go on as long as conditions are left ends when none is ready. -/
theorem Progress.ready_run (sound : graph.Sound) {limit : Nat} (progress : Progress graph sorting)
    (enough : graph.size ≤ limit + sorting.placed.length) :
    (Sorting.run graph limit sorting).ready = [] := by
  induction limit generalizing sorting with
  | zero =>
    have bound := progress.length_le
    exact List.length_eq_zero_iff.1 (by unfold Sorting.run; omega)
  | succ limit ih =>
    unfold Sorting.run
    cases first : sorting.ready with
    | nil => exact first
    | cons name ready =>
      refine ih (progress.place sound first) ?_
      rw [placed_releaseAll, List.length_cons]
      omega

/-- **Nothing is released that waits for nothing**: however many dependents of a placed condition
have been released so far, the next of them still waits for a reference. -/
theorem Progress.waits_of_release (sound : graph.Sound) (progress : Progress graph sorting)
    {name : String} {ready : List String} (first : sorting.ready = name :: ready)
    {done rest : List String} {next : String}
    (split : graph.dependents name = done ++ next :: rest) :
    ∃ count, (done.foldl release (sorting.placing name ready)).waiting.get? next =
      some (count + 1) := by
  have nodup := progress.nodup
  rw [first] at nodup
  have fresh : name ∉ sorting.placed := not_mem_of_nodup_middle nodup
  have distinct := dependents_nodup sound name
  rw [split] at distinct
  have later : next ∉ done := not_mem_of_nodup_middle distinct
  have refers : graph.Refers next name := by
    rw [← mem_dependents_iff sound, split]
    exact List.mem_append_right _ List.mem_cons_self
  obtain ⟨count, waits⟩ := progress.waits_pos fresh refers
  refine ⟨count, ?_⟩
  rw [get?_waiting_releaseAll (List.nodup_append'.1 distinct).1, if_neg later]
  exact waits

end Sorting

/-! ## The end of the work -/

/-- The work on the order at its end. -/
def sorted (graph : Graph) : Sorting :=
  Sorting.run graph graph.size (Sorting.start graph)

/-- What has been placed is free of circles, because its references have been placed before. -/
theorem acc_of_after {placed : List String}
    (after : ∀ newer name older, placed = newer ++ name :: older →
      ∀ other, graph.Refers name other → other ∈ older) :
    ∀ name ∈ placed, Acc (fun other name => graph.Refers name other) name := by
  induction placed with
  | nil => exact List.forall_mem_nil _
  | cons newest placed ih =>
    have earlier := ih fun newer name older split =>
      after (newest :: newer) name older (congrArg (newest :: ·) split)
    refine List.forall_mem_cons.2 ⟨.intro _ fun other refers => ?_, earlier⟩
    exact earlier other (after [] newest placed rfl other refers)

section End

variable (sound : graph.Sound)
include sound

theorem sorted_progress : Sorting.Progress graph graph.sorted :=
  (Sorting.start_progress sound).run sound graph.size

theorem ready_sorted : graph.sorted.ready = [] :=
  (Sorting.start_progress sound).ready_run sound (Nat.le_add_right _ _)

/-- At the end those are left that are on a circle or lead to one. -/
theorem mem_placed_sorted_iff {name : String} (declared : name ∈ graph.names) :
    name ∈ graph.sorted.placed ↔ ¬ReachesCircle graph.Refers name := by
  have progress := sorted_progress sound
  rw [← acc_iff_not_reachesCircle sound.declared]
  refine ⟨acc_of_after progress.after name, fun grounded => ?_⟩
  induction grounded with
  | intro name _ ih =>
    obtain ⟨others, found⟩ : ∃ others, graph.edges.get? name = some others :=
      Entries.exists_get?_eq_some_of_mem_keys declared
    have none_left : others.filter (· ∉ graph.sorted.placed) = [] := by
      refine List.filter_eq_nil_iff.2 fun other listed => ?_
      have refers : graph.Refers name other := ⟨others, found, listed⟩
      have placed := ih other refers (sound.declared name other refers)
      simp [placed]
    have free := (progress.free name).2 (by rw [progress.waits name others found, none_left]; rfl)
    rw [ready_sorted sound, List.append_nil] at free
    exact free

/-- All conditions have been placed when as many have been placed as there are. -/
theorem placed_sorted_perm_iff :
    graph.sorted.placed.length = graph.size ↔ graph.sorted.placed.Perm graph.names := by
  have progress := sorted_progress sound
  have count : graph.names.length = graph.size := by simp [names, Entries.keys, size]
  have distinct : graph.sorted.placed.Nodup := (List.nodup_append'.1 progress.nodup).1
  have inside : graph.sorted.placed ⊆ graph.names :=
    fun _ member => progress.mem_names (List.mem_append_left _ member)
  rw [← count]
  constructor
  · intro same
    exact (distinct.subperm inside).perm_of_length_le (Nat.le_of_eq same.symm)
  · exact List.Perm.length_eq

/-! ## The order -/

theorem order_eq_ok_iff {order : List String} :
    graph.order = .ok order ↔
      graph.sorted.placed.Perm graph.names ∧ order = graph.sorted.placed.reverse := by
  rw [← placed_sorted_perm_iff sound]
  change (if graph.sorted.placed.length = graph.size then _ else _) = _ ↔ _
  by_cases complete : graph.sorted.placed.length = graph.size
  · rw [if_pos complete, Except.ok.injEq, eq_comm]
    exact ⟨fun same => ⟨complete, same⟩, fun both => both.2⟩
  · rw [if_neg complete]
    exact ⟨nofun, fun both => absurd both.1 complete⟩

/-- An order has every condition once. -/
theorem order_perm {order : List String} (found : graph.order = .ok order) :
    order.Perm graph.names := by
  obtain ⟨all, rfl⟩ := (order_eq_ok_iff sound).1 found
  exact (List.reverse_perm _).trans all

/-- There is an order exactly when nothing refers back to itself. -/
theorem exists_order_iff :
    (∃ order, graph.order = .ok order) ↔
      ∀ name ∈ graph.names, ¬Relation.TransGen graph.Refers name name := by
  simp only [order_eq_ok_iff sound, exists_and_left, exists_eq, and_true]
  have progress := sorted_progress sound
  constructor
  · intro all name declared circle
    have placed := all.mem_iff.2 declared
    exact (mem_placed_sorted_iff sound declared).1 placed ⟨name, .refl, circle⟩
  · intro free
    have distinct : graph.sorted.placed.Nodup := (List.nodup_append'.1 progress.nodup).1
    refine (List.perm_ext_iff_of_nodup distinct sound.names_nodup).2 fun name => ?_
    constructor
    · exact fun placed => progress.mem_names (List.mem_append_left _ placed)
    · intro declared
      refine (mem_placed_sorted_iff sound declared).2 ?_
      rintro ⟨other, _, circle⟩
      obtain ⟨last, _, refers⟩ := Relation.TransGen.tail'_iff.1 circle
      exact free other (sound.declared last other refers) circle

/-- Every condition comes after all that it refers to. -/
theorem order_after {order : List String} (found : graph.order = .ok order)
    {before after : List String} {name other : String} (split : order = before ++ name :: after)
    (refers : graph.Refers name other) : other ∈ before := by
  obtain ⟨_, rfl⟩ := (order_eq_ok_iff sound).1 found
  have placed : graph.sorted.placed = after.reverse ++ name :: before.reverse := by
    rw [← List.reverse_reverse graph.sorted.placed, split]
    simp
  exact List.mem_reverse.1 ((sorted_progress sound).after _ _ _ placed other refers)

/-- Without an order, those are named that are on a circle or lead to one. -/
theorem order_error {error : Error} (failed : graph.order = .error error) :
    ∃ stuck, error = .circularDependency stuck ∧ stuck.Sublist graph.names ∧
      ∀ name, name ∈ stuck ↔ name ∈ graph.names ∧ ReachesCircle graph.Refers name := by
  have progress := sorted_progress sound
  change (if graph.sorted.placed.length = graph.size then Except.ok graph.sorted.placed.reverse
    else Except.error (Error.circularDependency
      (Entries.keys (graph.sorted.waiting.filter fun entry => 0 < entry.2)))) = _ at failed
  by_cases complete : graph.sorted.placed.length = graph.size
  · rw [if_pos complete] at failed
    cases failed
  · rw [if_neg complete] at failed
    cases failed
    refine ⟨_, rfl, ?_, fun name => ?_⟩
    · rw [← progress.keys]
      exact List.filter_sublist.map Prod.fst
    · have distinct : graph.sorted.waiting.Distinct := by
        unfold Entries.Distinct
        rw [progress.keys]
        exact sound.names_nodup
      rw [Entries.mem_keys_filter_iff distinct (fun count => decide (0 < count)) name]
      have free := progress.free name
      rw [ready_sorted sound, List.append_nil] at free
      constructor
      · rintro ⟨count, found, positive⟩
        have declared : name ∈ graph.names := by
          rw [← progress.keys]
          exact Entries.mem_keys_of_get?_eq_some found
        refine ⟨declared, ?_⟩
        by_contra grounded
        have none_left := free.1 ((mem_placed_sorted_iff sound declared).2 grounded)
        rw [found] at none_left
        cases none_left
        simp at positive
      · rintro ⟨declared, circle⟩
        have left : name ∉ graph.sorted.placed := fun placed =>
          (mem_placed_sorted_iff sound declared).1 placed circle
        rw [← progress.keys] at declared
        obtain ⟨count, found⟩ := Entries.exists_get?_eq_some_of_mem_keys declared
        refine ⟨count, found, decide_eq_true (Nat.pos_of_ne_zero fun none_left => ?_)⟩
        rw [none_left] at found
        exact left (free.2 found)

end End

end Graph

/-! ## The order of conditions -/

/-- **The order is exact.** There is one if and only if no declared condition refers back to
itself. It is then an order of all conditions, each after those that it refers to. Otherwise the
conditions that are on a circle of references or lead to one are named, as they are declared. On
the way, no condition is released that waits for nothing. -/
theorem order_exact (conditions : Entries Value) (distinct : conditions.Distinct) :
    ((∃ order, (Graph.ofConditions conditions).order = .ok order) ↔
      ∀ name ∈ conditions.keys, ¬Relation.TransGen (Refers conditions) name name) ∧
    (∀ order, (Graph.ofConditions conditions).order = .ok order →
      order.Perm conditions.keys ∧
      ∀ before name after, order = before ++ name :: after →
        ∀ other, Refers conditions name other → other ∈ before) ∧
    (∀ error, (Graph.ofConditions conditions).order = .error error →
      ∃ stuck, error = .circularDependency stuck ∧ stuck.Sublist conditions.keys ∧
        ∀ name, name ∈ stuck ↔
          name ∈ conditions.keys ∧ ReachesCircle (Refers conditions) name) ∧
    (∀ limit name ready done next rest,
      let graph := Graph.ofConditions conditions
      let sorting := Graph.Sorting.run graph limit (Graph.Sorting.start graph)
      sorting.ready = name :: ready → graph.dependents name = done ++ next :: rest →
      ∃ count, (done.foldl Graph.Sorting.release (sorting.placing name ready)).waiting.get? next =
        some (count + 1)) := by
  have sound := Graph.ofConditions_sound distinct
  have same := Graph.refers_ofConditions conditions
  refine ⟨?_, fun order found => ⟨?_, ?_⟩, fun error failed => ?_, ?_⟩
  · rw [Graph.exists_order_iff sound, same, Graph.names_ofConditions]
  · rw [← Graph.names_ofConditions]
    exact Graph.order_perm sound found
  · intro before name after split other refers
    rw [← same] at refers
    exact Graph.order_after sound found split refers
  · have named := Graph.order_error sound failed
    rw [same, Graph.names_ofConditions] at named
    exact named
  · intro limit name ready done next rest graph sorting first split
    have progress := (Graph.Sorting.start_progress sound).run sound limit
    exact progress.waits_of_release sound first split

/-- Two conditions that refer to each other, one that refers to them, and one on its own. -/
def entangled : Entries Value :=
  [("C", .map [("Fn::And", .list [.map [("Condition", .string "A")], .string "D"])]),
    ("A", .map [("Condition", .string "B")]), ("B", .map [("Fn::Not", .list [.string "A"])]),
    ("D", .bool true)]

/-- Those without an order are the two on the circle and the one that leads to it. -/
theorem order_exact_entangled :
    entangled.Distinct ∧ ∀ name, name ∈ ["C", "A", "B"] ↔
      name ∈ entangled.keys ∧ ReachesCircle (Refers entangled) name := by
  have distinct : entangled.Distinct := by decide
  have failed : (Graph.ofConditions entangled).order =
      .error (.circularDependency ["C", "A", "B"]) := rfl
  obtain ⟨stuck, same, _, exactly⟩ := (order_exact entangled distinct).2.2.1 _ failed
  cases same
  exact ⟨distinct, exactly⟩

end CloudTemplate.Condition

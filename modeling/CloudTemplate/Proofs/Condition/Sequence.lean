import Mathlib.Data.Prod.Lex
import Mathlib.Order.Bounds.Basic
import CloudTemplate.Proofs.Condition.Order

/-!
# The place of a condition in the order

Of the many orders in which a condition comes after those that it refers to, the work on an order
always finds the same one. What decides between two conditions is their rank (`Graph.rank`): the
place of the last condition that a condition refers to, and for equal places the declaration. A
condition becomes ready when the last of its references is placed, and the ready ones wait in a
queue, so that those that became ready earlier come first. Those that become ready together are
put into the queue as they are declared.

The sequence of what has been placed and what is ready only grows at its end
(`Graph.Sorting.sequence_place`). So the places in it are final, and it stays sorted by rank while
conditions are placed (`Graph.Sorting.Sorted.place`): what is ready already has its references
before the one that is being placed, and what becomes ready now has it as the last of them.

The rank of a condition depends on the sequence itself. Nevertheless there is only one sequence of
the conditions that is sorted by its own rank (`Graph.eq_of_isRanked`), as long as nothing refers
back to itself. Thus the order is determined (`order_determined`).
-/

set_option autoImplicit false

namespace CloudTemplate.Condition

/-! ## Places -/

/-- The greatest place that one of the names has in a sequence, or -1 if there is no name. -/
def lastPlace (sequence : List String) : List String → Int
  | [] => -1
  | name :: names => max (sequence.idxOf name) (lastPlace sequence names)

theorem lastPlace_isGreatest (sequence names : List String) :
    IsGreatest {place : Int | place = -1 ∨ ∃ name ∈ names, place = sequence.idxOf name}
      (lastPlace sequence names) := by
  induction names with
  | nil =>
    refine ⟨.inl rfl, ?_⟩
    rintro place (rfl | ⟨_, none, _⟩)
    · exact le_refl (-1)
    · cases none
  | cons name names ih =>
    constructor
    · rcases max_choice (sequence.idxOf name : Int) (lastPlace sequence names) with here | later
      · exact .inr ⟨name, List.mem_cons_self, here⟩
      · rw [lastPlace, later]
        exact ih.1.imp_right fun ⟨other, member, same⟩ =>
          ⟨other, List.mem_cons_of_mem name member, same⟩
    · rintro place (rfl | ⟨other, member, rfl⟩)
      · exact (ih.2 (.inl rfl)).trans (le_max_right _ _)
      · rcases List.mem_cons.1 member with rfl | later
        · exact le_max_left _ _
        · exact (ih.2 (.inr ⟨other, later, rfl⟩)).trans (le_max_right _ _)

theorem le_lastPlace (sequence : List String) {names : List String} {name : String}
    (member : name ∈ names) :
    (sequence.idxOf name : Int) ≤ lastPlace sequence names :=
  (lastPlace_isGreatest sequence names).2 (.inr ⟨name, member, rfl⟩)

/-- What comes later does not change the last place of names that are there already. -/
theorem lastPlace_append {sequence names : List String} (all : names ⊆ sequence)
    (more : List String) : lastPlace (sequence ++ more) names = lastPlace sequence names := by
  induction names with
  | nil => rfl
  | cons name names ih =>
    obtain ⟨here, others⟩ := List.cons_subset.1 all
    simp only [lastPlace, List.idxOf_append_of_mem here, ih others]

theorem lastPlace_lt_length {sequence names : List String} (all : names ⊆ sequence) :
    lastPlace sequence names < sequence.length := by
  rcases (lastPlace_isGreatest sequence names).1 with none | ⟨name, member, last⟩
  · rw [none]
    omega
  · rw [last, Int.ofNat_lt, List.idxOf_lt_length_iff]
    exact all member

theorem lastPlace_congr {sequence other names : List String}
    (same : ∀ name ∈ names, sequence.idxOf name = other.idxOf name) :
    lastPlace sequence names = lastPlace other names := by
  induction names with
  | nil => rfl
  | cons name names ih =>
    obtain ⟨here, others⟩ := List.forall_mem_cons.1 same
    simp only [lastPlace, here, ih others]

/-- A name that comes early has the same place in a sequence that starts in the same way. -/
theorem idxOf_eq_of_take_eq {sequence other : List String} {count : Nat}
    (same : sequence.take count = other.take count) {name : String} (member : name ∈ sequence)
    (early : sequence.idxOf name < count) : sequence.idxOf name = other.idxOf name := by
  have here : name ∈ sequence.take count := (List.mem_take_iff_idxOf_lt member).2 early
  rw [← List.take_append_drop count sequence, ← List.take_append_drop count other, ← same,
    List.idxOf_append_of_mem here, List.idxOf_append_of_mem here]

/-- Names come in the order of something else exactly when the sequence is sorted by it. -/
theorem idxOf_lt_idxOf_iff {α : Type} [LinearOrder α] {rank : String → α}
    {sequence : List String}
    (sorted : sequence.Pairwise fun name other => rank name < rank other)
    {name other : String} (member : name ∈ sequence) (other_member : other ∈ sequence) :
    sequence.idxOf name < sequence.idxOf other ↔ rank name < rank other := by
  have forward : ∀ {first second : String}, first ∈ sequence → second ∈ sequence →
      sequence.idxOf first < sequence.idxOf second → rank first < rank second := by
    intro first second here there less
    have bound := List.idxOf_lt_length_iff.2 here
    have bound' := List.idxOf_lt_length_iff.2 there
    have pair := List.pairwise_iff_getElem.1 sorted _ _ bound bound' less
    rwa [List.getElem_idxOf, List.getElem_idxOf] at pair
  refine ⟨forward member other_member, fun less => ?_⟩
  rcases Nat.lt_trichotomy (sequence.idxOf name) (sequence.idxOf other) with before | same | after
  · exact before
  · rw [(List.idxOf_inj member).1 same] at less
    exact absurd less (lt_irrefl _)
  · exact absurd less (forward other_member member after).asymm

/-- In a list without repetitions the places grow. -/
theorem pairwise_idxOf_lt {names : List String} (distinct : names.Nodup) :
    names.Pairwise fun name other => names.idxOf name < names.idxOf other := by
  rw [List.pairwise_iff_getElem]
  intro i j first second less
  rwa [distinct.idxOf_getElem i first, distinct.idxOf_getElem j second]

namespace Graph

variable {graph : Graph}

/-! ## Ranks -/

/-- The conditions that a condition refers to. -/
def references (graph : Graph) (name : String) : List String :=
  (graph.edges.get? name).getD []

theorem mem_references_iff {name other : String} :
    other ∈ graph.references name ↔ graph.Refers name other := by
  unfold references Refers
  cases graph.edges.get? name <;> simp

/-- What decides between two conditions of a sequence: the place of the last condition that a
condition refers to, and then its declaration. -/
def rank (graph : Graph) (sequence : List String) (name : String) : Int ×ₗ Nat :=
  toLex (lastPlace sequence (graph.references name), graph.names.idxOf name)

theorem rank_lt_iff {sequence : List String} {name other : String} :
    graph.rank sequence name < graph.rank sequence other ↔
      lastPlace sequence (graph.references name) < lastPlace sequence (graph.references other) ∨
        lastPlace sequence (graph.references name) =
            lastPlace sequence (graph.references other) ∧
          graph.names.idxOf name < graph.names.idxOf other :=
  Prod.Lex.toLex_lt_toLex

/-- Of two different conditions, the one of lower rank comes first in the sequence. -/
def IsRanked (graph : Graph) (sequence : List String) : Prop :=
  ∀ name ∈ graph.names, ∀ other ∈ graph.names, name ≠ other →
    (sequence.idxOf name < sequence.idxOf other ↔
      graph.rank sequence name < graph.rank sequence other)

/-- Conditions with the same last reference that are listed as they are declared are sorted. -/
theorem pairwise_rank_of_sublist (sound : graph.Sound) {sequence names : List String} {last : Int}
    (declared : names.Sublist graph.names)
    (same : ∀ name ∈ names, lastPlace sequence (graph.references name) = last) :
    names.Pairwise fun name other => graph.rank sequence name < graph.rank sequence other := by
  refine ((pairwise_idxOf_lt sound.names_nodup).sublist declared).imp_of_mem ?_
  intro name other member other_member earlier
  rw [rank_lt_iff, same name member, same other other_member]
  exact .inr ⟨rfl, earlier⟩

theorem dependents_sublist (graph : Graph) (name : String) :
    (graph.dependents name).Sublist graph.names := by
  unfold dependents
  split
  · exact List.filter_sublist.map Prod.fst
  · exact List.nil_sublist _

/-! ## The sequence that the work makes -/

namespace Sorting

variable {sorting : Sorting}

/-- What has been placed and then what is ready, in the order in which it is or will be placed. -/
def sequence (sorting : Sorting) : List String :=
  sorting.placed.reverse ++ sorting.ready

/-- Those that wait for a name and nothing else, as they are declared. -/
def released (graph : Graph) (sorting : Sorting) (name : String) : List String :=
  (graph.dependents name).filter fun other => sorting.waiting.get? other = some 1

/-- Placing a condition puts those that it releases at the end of the sequence. -/
theorem sequence_place (sound : graph.Sound) {name : String} {ready : List String}
    (first : sorting.ready = name :: ready) :
    ((graph.dependents name).foldl release (sorting.placing name ready)).sequence =
      sorting.sequence ++ released graph sorting name := by
  unfold sequence
  rw [placed_releaseAll, ready_releaseAll (dependents_nodup sound name), first]
  simp only [placed_placing, ready_placing, List.reverse_cons, List.append_assoc,
    List.cons_append]
  rfl

/-- The sequence is sorted by rank. -/
def Sorted (graph : Graph) (sorting : Sorting) : Prop :=
  sorting.sequence.Pairwise fun name other =>
    graph.rank sorting.sequence name < graph.rank sorting.sequence other

/-- The references of what is in the sequence have been placed. -/
theorem Progress.references_subset (progress : Progress graph sorting) {name : String}
    (member : name ∈ sorting.sequence) : graph.references name ⊆ sorting.placed.reverse := by
  intro other listed
  rw [List.mem_reverse]
  refine progress.placed_of_refers ?_ (mem_references_iff.1 listed)
  simpa [sequence] using member

/-- What becomes ready when a condition is placed has that one as the last of its references. -/
theorem Progress.lastPlace_released (sound : graph.Sound) (progress : Progress graph sorting)
    {name : String} {ready : List String} (first : sorting.ready = name :: ready) {other : String}
    (member : other ∈ released graph sorting name) :
    lastPlace (sorting.sequence ++ released graph sorting name) (graph.references other) =
      sorting.placed.length := by
  have later := progress.place sound first
  have grown := sequence_place sound first
  have inside : graph.references other ⊆ (name :: sorting.placed).reverse := by
    have listed := List.mem_append_right sorting.sequence member
    rw [← grown] at listed
    simpa only [placed_releaseAll, placed_placing] using later.references_subset listed
  have fresh : name ∉ sorting.placed.reverse := by
    have nodup := progress.nodup
    rw [first] at nodup
    simpa using not_mem_of_nodup_middle nodup
  have split : sorting.sequence ++ released graph sorting name =
      (name :: sorting.placed).reverse ++ (ready ++ released graph sorting name) := by
    simp [sequence, first]
  have refers : name ∈ graph.references other := by
    rw [mem_references_iff, ← mem_dependents_iff sound]
    exact List.mem_of_mem_filter member
  have above := lastPlace_lt_length inside
  have below := le_lastPlace (name :: sorting.placed).reverse refers
  rw [List.reverse_cons, List.idxOf_append_of_notMem fresh] at below
  rw [split, lastPlace_append inside]
  simp at above below ⊢
  omega

/-- **Placing a condition keeps the sequence sorted.** -/
theorem Sorted.place (sound : graph.Sound) (progress : Progress graph sorting)
    (sorted : Sorted graph sorting) {name : String} {ready : List String}
    (first : sorting.ready = name :: ready) :
    Sorted graph ((graph.dependents name).foldl release (sorting.placing name ready)) := by
  unfold Sorted
  rw [sequence_place sound first]
  have kept : ∀ other ∈ sorting.sequence,
      lastPlace (sorting.sequence ++ released graph sorting name) (graph.references other) =
        lastPlace sorting.sequence (graph.references other) := by
    intro other member
    refine lastPlace_append (fun _ listed => ?_) _
    exact List.mem_append_left _ (progress.references_subset member listed)
  have earlier : ∀ other ∈ sorting.sequence,
      lastPlace sorting.sequence (graph.references other) < sorting.placed.length := by
    intro other member
    have inside := progress.references_subset member
    rw [← List.length_reverse, sequence, lastPlace_append inside]
    exact lastPlace_lt_length inside
  refine List.pairwise_append.2 ⟨?_, ?_, ?_⟩
  · refine sorted.imp_of_mem fun {one other} member other_member less => ?_
    rw [rank_lt_iff] at less ⊢
    rwa [kept one member, kept other other_member]
  · refine pairwise_rank_of_sublist sound ?_ fun other => progress.lastPlace_released sound first
    exact List.filter_sublist.trans (dependents_sublist graph name)
  · intro one member other other_member
    rw [rank_lt_iff, kept one member, progress.lastPlace_released sound first other_member]
    exact .inl (earlier one member)

/-- What is ready at the start refers to nothing and is listed as it is declared. -/
theorem start_sorted (sound : graph.Sound) : Sorted graph (start graph) := by
  have progress := start_progress sound
  have declared : (start graph).sequence.Sublist graph.names := by
    have keys : graph.inDegrees.keys = graph.names := progress.keys
    rw [← keys]
    exact List.filter_sublist.map Prod.fst
  have none : ∀ name ∈ (start graph).sequence,
      lastPlace (start graph).sequence (graph.references name) = -1 := by
    intro name member
    rw [List.subset_nil.1 (progress.references_subset member)]
    rfl
  exact pairwise_rank_of_sublist sound declared none

/-- The run keeps the sequence sorted. -/
theorem Sorted.run (sound : graph.Sound) (limit : Nat) (progress : Progress graph sorting)
    (sorted : Sorted graph sorting) : Sorted graph (run graph limit sorting) := by
  induction limit generalizing sorting with
  | zero => exact sorted
  | succ limit ih =>
    unfold Sorting.run
    cases first : sorting.ready with
    | nil => exact sorted
    | cons name ready => exact ih (progress.place sound first) (sorted.place sound progress first)

end Sorting

/-! ## Ranked sequences -/

section Ranked

variable (sound : graph.Sound)
  (grounded : ∀ name ∈ graph.names, Acc (fun other name => graph.Refers name other) name)
include sound grounded

/-- A condition of a ranked sequence comes after its references. Otherwise every condition from
some place on would have a reference from that place on, and there would be no end to that. -/
theorem IsRanked.lastPlace_lt {sequence : List String} (ranked : graph.IsRanked sequence)
    (all : sequence.Perm graph.names) {name : String} (declared : name ∈ graph.names) :
    lastPlace sequence (graph.references name) < sequence.idxOf name := by
  by_contra late
  rw [not_lt] at late
  have endless : ∀ other ∈ graph.names, ¬sequence.idxOf name ≤ sequence.idxOf other := by
    intro other other_declared
    induction grounded other other_declared with
    | intro other _ ih =>
      intro later
      have below : (sequence.idxOf name : Int) ≤ lastPlace sequence (graph.references other) := by
        by_cases same : name = other
        · rwa [same] at late ⊢
        · have differ : sequence.idxOf name ≠ sequence.idxOf other := fun places =>
            same ((List.idxOf_inj (all.mem_iff.2 declared)).1 places)
          have less := (ranked name declared other other_declared same).1 (by omega)
          rw [rank_lt_iff] at less
          omega
      rcases (lastPlace_isGreatest sequence (graph.references other)).1 with none | found
      · omega
      · obtain ⟨next, listed, place⟩ := found
        have refers := mem_references_iff.1 listed
        exact ih next refers (sound.declared other next refers) (by omega)
  exact endless name declared (Nat.le_refl _)

variable {first second : List String}

/-- Where two ranked sequences start in the same way, what comes next in the first one has a lower
rank in it than anything else that could come next, and this rank is its rank in the second one. -/
theorem IsRanked.rank_lt_of_take_eq (ranked : graph.IsRanked first)
    (all : first.Perm graph.names) (all' : second.Perm graph.names) {count : Nat}
    (same : first.take count = second.take count) {name other : String}
    (next : first[count]? = some name) (next' : second[count]? = some other)
    (differ : name ≠ other) :
    graph.rank first name < graph.rank first other ∧
      graph.rank first name = graph.rank second name := by
  obtain ⟨bound, at_first⟩ := List.getElem?_eq_some_iff.1 next
  obtain ⟨bound', at_second⟩ := List.getElem?_eq_some_iff.1 next'
  have place : first.idxOf name = count := by
    rw [← at_first]
    exact (all.nodup_iff.2 sound.names_nodup).idxOf_getElem count bound
  have place' : second.idxOf other = count := by
    rw [← at_second]
    exact (all'.nodup_iff.2 sound.names_nodup).idxOf_getElem count bound'
  have declared : name ∈ graph.names := all.mem_iff.1 (List.mem_of_getElem? next)
  have other_declared : other ∈ graph.names := all'.mem_iff.1 (List.mem_of_getElem? next')
  constructor
  · have later : first.idxOf name < first.idxOf other := by
      rw [place]
      by_contra early
      rcases Nat.lt_or_eq_of_le (Nat.not_lt.1 early) with before | here
      · have moved := idxOf_eq_of_take_eq same (all.mem_iff.2 other_declared) before
        omega
      · rw [← place] at here
        exact differ ((List.idxOf_inj (all.mem_iff.2 other_declared)).1 here).symm
    exact (ranked name declared other other_declared differ).1 later
  · have early := ranked.lastPlace_lt sound grounded all declared
    have places : ∀ reference ∈ graph.references name,
        first.idxOf reference = second.idxOf reference := by
      intro reference listed
      have inside := sound.declared name reference (mem_references_iff.1 listed)
      have below := le_lastPlace first listed
      exact idxOf_eq_of_take_eq same (all.mem_iff.2 inside) (by omega)
    unfold rank
    rw [lastPlace_congr places]

/-- **There is only one ranked sequence** of the conditions. -/
theorem eq_of_isRanked (ranked : graph.IsRanked first) (ranked' : graph.IsRanked second)
    (all : first.Perm graph.names) (all' : second.Perm graph.names) : first = second := by
  have same : ∀ count, first.take count = second.take count := by
    intro count
    induction count with
    | zero => rfl
    | succ count ih =>
      rw [List.take_add_one, List.take_add_one, ih]
      have length : first.length = second.length := (all.trans all'.symm).length_eq
      cases next : first[count]? with
      | none =>
        rw [List.getElem?_eq_none_iff, length, ← List.getElem?_eq_none_iff] at next
        rw [next]
      | some name =>
        obtain ⟨other, next'⟩ : ∃ other, second[count]? = some other := by
          obtain ⟨bound, _⟩ := List.getElem?_eq_some_iff.1 next
          exact ⟨_, List.getElem?_eq_getElem (length ▸ bound)⟩
        rw [next']
        by_contra differ
        replace differ : name ≠ other := fun equal => differ (equal ▸ rfl)
        obtain ⟨less, moved⟩ :=
          ranked.rank_lt_of_take_eq sound grounded all all' ih next next' differ
        obtain ⟨less', moved'⟩ :=
          ranked'.rank_lt_of_take_eq sound grounded all' all ih.symm next' next differ.symm
        rw [moved, ← moved'] at less
        exact less.asymm less'
  have whole := same first.length
  rwa [List.take_length, (all.trans all'.symm).length_eq, List.take_length] at whole

end Ranked

/-! ## The order -/

section Order

variable (sound : graph.Sound) {order : List String} (found : graph.order = .ok order)
include sound found

theorem order_isRanked : graph.IsRanked order := by
  have sorted : Sorting.Sorted graph graph.sorted :=
    (Sorting.start_sorted sound).run sound graph.size (Sorting.start_progress sound)
  have all := order_perm sound found
  obtain ⟨_, rfl⟩ := (order_eq_ok_iff sound).1 found
  have whole : graph.sorted.sequence = graph.sorted.placed.reverse := by
    rw [Sorting.sequence, ready_sorted sound, List.append_nil]
  unfold Sorting.Sorted at sorted
  rw [whole] at sorted
  intro name declared other other_declared _
  exact idxOf_lt_idxOf_iff sorted (all.mem_iff.2 declared) (all.mem_iff.2 other_declared)

/-- What is in an order leads to no circle. -/
theorem acc_of_order {name : String} (declared : name ∈ graph.names) :
    Acc (fun other name => graph.Refers name other) name := by
  obtain ⟨all, _⟩ := (order_eq_ok_iff sound).1 found
  exact acc_of_after (sorted_progress sound).after name (all.mem_iff.2 declared)

end Order

end Graph

/-- **The order is determined.** Where no condition refers back to itself, there is an order of all
conditions, in which one condition comes before another one if and only if the last condition that
it refers to has an earlier place, or the same place and it is declared earlier. It is the only
sequence of the conditions of which this is true. -/
theorem order_determined (conditions : Entries Value) (distinct : conditions.Distinct)
    (acyclic : ∀ name ∈ conditions.keys, ¬Relation.TransGen (Refers conditions) name name) :
    ∃ order, (Graph.ofConditions conditions).order = .ok order ∧ order.Perm conditions.keys ∧
      (Graph.ofConditions conditions).IsRanked order ∧
      ∀ sequence, sequence.Perm conditions.keys →
        (Graph.ofConditions conditions).IsRanked sequence → sequence = order := by
  have sound := Graph.ofConditions_sound distinct
  rw [← Graph.refers_ofConditions, ← Graph.names_ofConditions] at acyclic
  obtain ⟨order, found⟩ := (Graph.exists_order_iff sound).2 acyclic
  have all := Graph.order_perm sound found
  have ranked := Graph.order_isRanked sound found
  rw [← Graph.names_ofConditions]
  refine ⟨order, found, all, ranked, fun sequence all' ranked' => ?_⟩
  exact Graph.eq_of_isRanked sound (fun _ => Graph.acc_of_order sound found) ranked' ranked all' all

/-- Two conditions that are ready at the start, two that become ready together with the first of
them, and one that waits for both of these kinds. -/
def staged : Entries Value :=
  [("E", .map [("Fn::And", .list [.string "C", .map [("Condition", .string "A")]])]),
    ("D", .map [("Fn::Not", .list [.string "B"])]), ("C", .map [("Condition", .string "B")]),
    ("B", .bool true), ("A", .bool false)]

/-- What became ready first comes first, and what became ready together comes as it is declared. -/
theorem order_determined_staged :
    staged.Distinct ∧
      (∀ name ∈ staged.keys, ¬Relation.TransGen (Refers staged) name name) ∧
      (Graph.ofConditions staged).IsRanked ["B", "A", "D", "C", "E"] ∧
      ∀ sequence, sequence.Perm staged.keys → (Graph.ofConditions staged).IsRanked sequence →
        sequence = ["B", "A", "D", "C", "E"] := by
  have distinct : staged.Distinct := by decide
  have computed : (Graph.ofConditions staged).order = .ok ["B", "A", "D", "C", "E"] := rfl
  have acyclic := (Graph.exists_order_iff (Graph.ofConditions_sound distinct)).1 ⟨_, computed⟩
  rw [Graph.refers_ofConditions, Graph.names_ofConditions] at acyclic
  obtain ⟨order, found, _, ranked, only⟩ := order_determined staged distinct acyclic
  cases found.symm.trans computed
  exact ⟨distinct, acyclic, ranked, only⟩

end CloudTemplate.Condition

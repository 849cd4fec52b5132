import Mathlib.Data.List.Nodup
import CloudTemplate.Condition.Graph
import CloudTemplate.Proofs.Within

/-!
# References between conditions

A condition refers to another one when the name of that one occurs as a text somewhere in its
expression (`Refers`). The names that are collected are those names, each once
(`mem_references_iff`, `references_nodup`), and the graph of conditions has them as its edges
(`Graph.ofConditions_refers_iff`). A graph is sound when its names are different and its edges lead
to its own nodes, each once (`Graph.Sound`).
-/

set_option autoImplicit false

namespace CloudTemplate.Condition

/-- The expression of the first condition names the second one, which is declared. -/
def Refers (conditions : Entries Value) (name other : String) : Prop :=
  ∃ expression, conditions.get? name = some expression ∧ other ∈ conditions.keys ∧
    (Value.string other).Within expression

/-! ## Collecting names -/

/-- What has been collected was collected before, or occurs in the value and is declared. -/
theorem mem_collect_iff {declared : List String} {name : String} (value : Value)
    (found : List String) :
    name ∈ collect declared found value ↔
      name ∈ found ∨ name ∈ declared ∧ (Value.string name).Within value := by
  induction value using Value.nested_induction generalizing found with
  | scalar value scalar =>
    have single : (Value.string name).Within value ↔ Value.string name = value := by
      constructor
      · intro inside
        cases inside with
        | self => rfl
        | item => exact scalar.elim
        | child => exact scalar.elim
      · rintro rfl
        exact .self _
    rw [single]
    cases value with
    | list items => exact scalar.elim
    | map entries => exact scalar.elim
    | string text =>
      unfold collect
      by_cases new : text ∈ declared ∧ text ∉ found
      · rw [if_pos new, List.mem_append, List.mem_singleton, Value.string.injEq]
        constructor
        · rintro (old | rfl)
          · exact .inl old
          · exact .inr ⟨new.1, rfl⟩
        · rintro (old | ⟨_, rfl⟩)
          · exact .inl old
          · exact .inr rfl
      · rw [if_neg new, Value.string.injEq]
        constructor
        · exact .inl
        · rintro (old | ⟨here, rfl⟩)
          · exact old
          · by_contra absent
            exact new ⟨here, absent⟩
    | _ =>
      unfold collect
      simp
  | list items ih =>
    have within_list : (Value.string name).Within (.list items) ↔
        ∃ item ∈ items, (Value.string name).Within item := by
      rw [Value.within_list_iff]
      exact or_iff_right nofun
    rw [within_list]
    unfold collect
    clear within_list
    induction items generalizing found with
    | nil => simp [collectItems]
    | cons item items rest =>
      have others := rest fun other member => ih other (List.mem_cons_of_mem _ member)
      refine (others (collect declared found item)).trans ?_
      rw [ih item List.mem_cons_self]
      simp only [List.mem_cons, exists_eq_or_imp, and_or_left, or_assoc]
  | map entries ih =>
    have within_map : (Value.string name).Within (.map entries) ↔
        ∃ entry ∈ entries, (Value.string name).Within entry.2 := by
      rw [Value.within_map_iff]
      exact or_iff_right nofun
    rw [within_map]
    unfold collect
    clear within_map
    induction entries generalizing found with
    | nil => simp [collectEntries]
    | cons entry entries rest =>
      have others := rest fun other member => ih other (List.mem_cons_of_mem _ member)
      refine (others (collect declared found entry.2)).trans ?_
      rw [ih entry List.mem_cons_self]
      simp only [List.mem_cons, exists_eq_or_imp, and_or_left, or_assoc]

/-- No name is collected twice. -/
theorem collect_nodup {declared : List String} (value : Value) {found : List String}
    (distinct : found.Nodup) : (collect declared found value).Nodup := by
  induction value using Value.nested_induction generalizing found with
  | scalar value scalar =>
    cases value with
    | list items => exact scalar.elim
    | map entries => exact scalar.elim
    | string text =>
      unfold collect
      by_cases new : text ∈ declared ∧ text ∉ found
      · rw [if_pos new]
        exact distinct.append (List.nodup_singleton text) (List.disjoint_singleton.2 new.2)
      · rw [if_neg new]
        exact distinct
    | _ => exact distinct
  | list items ih =>
    unfold collect
    induction items generalizing found with
    | nil => exact distinct
    | cons item items rest =>
      exact rest (fun other member => ih other (List.mem_cons_of_mem _ member))
        (ih item List.mem_cons_self distinct)
  | map entries ih =>
    unfold collect
    induction entries generalizing found with
    | nil => exact distinct
    | cons entry entries rest =>
      exact rest (fun other member => ih other (List.mem_cons_of_mem _ member))
        (ih entry List.mem_cons_self distinct)

/-- The references of an expression are the declared names that occur in it. -/
theorem mem_references_iff {conditions : Entries Value} {expression : Value} {name : String} :
    name ∈ references conditions expression ↔
      name ∈ conditions.keys ∧ (Value.string name).Within expression := by
  unfold references
  rw [mem_collect_iff]
  simp

theorem references_nodup (conditions : Entries Value) (expression : Value) :
    (references conditions expression).Nodup :=
  collect_nodup expression List.nodup_nil

namespace Graph

/-! ## Edges -/

/-- The graph has an edge from the first name to the second. -/
def Refers (graph : Graph) (name other : String) : Prop :=
  ∃ others, graph.edges.get? name = some others ∧ other ∈ others

/-- The names of the graph are different, and each has edges to different names of the graph. -/
structure Sound (graph : Graph) : Prop where
  names_nodup : graph.names.Nodup
  edges_nodup : ∀ name others, graph.edges.get? name = some others → others.Nodup
  declared : ∀ name other, graph.Refers name other → other ∈ graph.names

theorem names_ofConditions (conditions : Entries Value) :
    (ofConditions conditions).names = conditions.keys := by
  simp [names, ofConditions, Entries.keys]

theorem get?_ofConditions (conditions : Entries Value) (name : String) :
    (ofConditions conditions).edges.get? name =
      (conditions.get? name).map (references conditions) :=
  Entries.get?_map (references conditions) conditions name

/-- The edges are the references. -/
theorem ofConditions_refers_iff {conditions : Entries Value} {name other : String} :
    (ofConditions conditions).Refers name other ↔ Condition.Refers conditions name other := by
  unfold Refers Condition.Refers
  rw [get?_ofConditions]
  simp only [Option.map_eq_some_iff, ← mem_references_iff]
  constructor
  · rintro ⟨_, ⟨expression, declared, rfl⟩, member⟩
    exact ⟨expression, declared, member⟩
  · rintro ⟨expression, declared, member⟩
    exact ⟨_, ⟨expression, declared, rfl⟩, member⟩

theorem refers_ofConditions (conditions : Entries Value) :
    (ofConditions conditions).Refers = Condition.Refers conditions := by
  funext name other
  exact propext ofConditions_refers_iff

theorem ofConditions_sound {conditions : Entries Value} (distinct : conditions.Distinct) :
    (ofConditions conditions).Sound where
  names_nodup := by
    rw [names_ofConditions]
    exact distinct
  edges_nodup := by
    intro name others found
    rw [get?_ofConditions] at found
    obtain ⟨expression, _, rfl⟩ := Option.map_eq_some_iff.1 found
    exact references_nodup conditions expression
  declared := by
    intro name other refers
    obtain ⟨_, _, declared, _⟩ := ofConditions_refers_iff.1 refers
    rw [names_ofConditions]
    exact declared

end Graph

end CloudTemplate.Condition

import CloudTemplate.Proofs.Condition.Sequence

/-!
# The tables of the graph of conditions

The graph can be kept in two tables, one with the dependents of each condition and one with the
number of its references, which are filled while the conditions are gone through and, for each, its
references (`Graph.Tables.fill`). The inner loop adds a condition to the dependents of each of its
references once, because these are all different, and counts them
(`Graph.Tables.get?_dependents_links`, `Graph.Tables.get?_inDegrees_links`). So the outer loop
appends the conditions in the order of their declaration, and comes to each count once. At the end
the tables hold what the edges of the graph say (`Graph.Tables.dependentsOf_fill`,
`Graph.Tables.inDegrees_fill`).

The two tables are two views of the same edges: a condition waits for as many references as there
are conditions among whose dependents it is (`Graph.WellFormed`).
-/

set_option autoImplicit false

namespace CloudTemplate

namespace Entries

variable {α : Type}

/-- Changes the value at a key, if there is one. -/
def modify (entries : Entries α) (key : String) (f : α → α) : Entries α :=
  match get? entries key with
  | some value => insert key (f value) entries
  | none => entries

theorem keys_modify (entries : Entries α) (key : String) (f : α → α) :
    keys (modify entries key f) = keys entries := by
  unfold modify
  cases found : get? entries key with
  | none => rfl
  | some value =>
    have known : key ∈ keys entries := mem_keys_of_get?_eq_some found
    dsimp only
    rw [keys_insert, if_pos known]

theorem get?_modify (entries : Entries α) (key wanted : String) (f : α → α) :
    get? (modify entries key f) wanted =
      (get? entries wanted).map fun value => if wanted = key then f value else value := by
  unfold modify
  by_cases same : wanted = key
  · subst same
    simp only [if_true]
    cases found : get? entries wanted with
    | none => exact found
    | some value =>
      dsimp only
      rw [get?_insert, if_pos rfl]
      rfl
  · simp only [if_neg same, Option.map_id']
    cases get? entries key with
    | none => rfl
    | some value =>
      dsimp only
      rw [get?_insert, if_neg (Ne.symm same)]

theorem get?_map_pair (f : String → α) (names : List String) (name : String) :
    get? (names.map fun name => (name, f name)) name =
      if name ∈ names then some (f name) else none := by
  induction names with
  | nil => rfl
  | cons first names ih =>
    rw [List.map_cons, get?_cons, ih]
    by_cases here : first = name
    · simp [here]
    · simp [here, Ne.symm here]

/-- Entries with the same keys in the same order are known by what is looked up. -/
theorem eq_of_get?_eq {entries others : Entries α} (distinct : Distinct entries)
    (same_keys : keys entries = keys others) (same : ∀ key, get? entries key = get? others key) :
    entries = others := by
  induction entries generalizing others with
  | nil => exact (List.map_eq_nil_iff.1 same_keys.symm).symm
  | cons entry entries ih =>
    obtain ⟨absent, rest⟩ : entry.1 ∉ keys entries ∧ Distinct entries := List.nodup_cons.1 distinct
    cases others with
    | nil => cases same_keys
    | cons other others =>
      rw [keys_cons, keys_cons, List.cons.injEq] at same_keys
      have here := same entry.1
      rw [get?_cons, if_pos rfl, get?_cons, if_pos same_keys.1.symm, Option.some.injEq] at here
      have later : ∀ key, get? entries key = get? others key := by
        intro key
        by_cases first : entry.1 = key
        · rw [(get?_eq_none_iff _ _).2 (first ▸ absent),
            (get?_eq_none_iff _ _).2 (same_keys.2 ▸ first ▸ absent)]
        · have found := same key
          rwa [get?_cons, get?_cons, if_neg first, if_neg (same_keys.1 ▸ first)] at found
      rw [ih rest same_keys.2 later, Prod.ext same_keys.1 here]

end Entries

namespace Condition.Graph

theorem get?_inDegrees_ofConditions (conditions : Entries Value) (name : String) :
    (ofConditions conditions).inDegrees.get? name = (conditions.get? name).map fun expression =>
      (Condition.references conditions expression).length := by
  have counts : (ofConditions conditions).inDegrees.get? name =
      ((ofConditions conditions).edges.get? name).map List.length :=
    Entries.get?_map List.length _ name
  rw [counts, get?_ofConditions, Option.map_map]
  rfl

/-- Those that refer to each condition, and how many references each waits for. -/
structure Tables where
  dependents : Entries (List String) := []
  inDegrees : Entries Nat := []

namespace Tables

variable {conditions : Entries Value}

/-! ## Filling -/

/-- A condition is declared. -/
def declare (tables : Tables) (name : String) : Tables where
  dependents := tables.dependents.insert name []
  inDegrees := tables.inDegrees.insert name 0

/-- A condition has a reference. -/
def link (name : String) (tables : Tables) (reference : String) : Tables where
  dependents := tables.dependents.modify reference (· ++ [name])
  inDegrees := tables.inDegrees.modify name (· + 1)

/-- A condition has all of its references. -/
def linkAll (conditions : Entries Value) (tables : Tables) (entry : String × Value) : Tables :=
  (Condition.references conditions entry.2).foldl (link entry.1) tables

/-- The tables of all conditions. -/
def fill (conditions : Entries Value) : Tables :=
  conditions.foldl (linkAll conditions) (conditions.keys.foldl declare {})

/-- What the tables say about those that refer to a name. -/
def dependentsOf (tables : Tables) (name : String) : List String :=
  (tables.dependents.get? name).getD []

/-! ## Declaring -/

/-- The tables of conditions that have no references yet. -/
def declared (names : List String) : Tables where
  dependents := names.map fun name => (name, [])
  inDegrees := names.map fun name => (name, 0)

theorem foldl_declare {before names : List String} (distinct : (before ++ names).Nodup) :
    names.foldl declare (declared before) = declared (before ++ names) := by
  induction names generalizing before with
  | nil => rw [List.append_nil]; rfl
  | cons name names ih =>
    have fresh := not_mem_of_nodup_middle distinct
    have step : (declared before).declare name = declared (before ++ [name]) := by
      have absent : ∀ {α : Type} (value : α),
          name ∉ Entries.keys (before.map fun name => (name, value)) := by
        intro α value
        simpa [Entries.keys] using fresh
      unfold declare declared
      rw [Entries.insert_of_not_mem (absent _), Entries.insert_of_not_mem (absent _)]
      simp
    rw [← List.singleton_append, ← List.append_assoc] at distinct ⊢
    rw [List.foldl_append, List.foldl_cons, List.foldl_nil, step, ih distinct]

/-! ## Linking -/

theorem get?_dependents_links {references : List String} (distinct : references.Nodup)
    (name other : String) (tables : Tables) :
    (references.foldl (link name) tables).dependents.get? other =
      (tables.dependents.get? other).map fun dependents =>
        if other ∈ references then dependents ++ [name] else dependents := by
  induction references generalizing tables with
  | nil => simp
  | cons reference references ih =>
    obtain ⟨absent, rest⟩ := List.nodup_cons.1 distinct
    have step : (link name tables reference).dependents.get? other = _ :=
      Entries.get?_modify tables.dependents reference other (· ++ [name])
    rw [List.foldl_cons, ih rest, step, Option.map_map]
    refine congrArg (Option.map · _) (funext fun dependents => ?_)
    by_cases here : other = reference
    · subst here
      simp [absent]
    · simp [here]

theorem get?_inDegrees_links (references : List String) (name other : String) (tables : Tables) :
    (references.foldl (link name) tables).inDegrees.get? other =
      (tables.inDegrees.get? other).map fun count =>
        if other = name then count + references.length else count := by
  induction references generalizing tables with
  | nil => simp
  | cons reference references ih =>
    have step : (link name tables reference).inDegrees.get? other = _ :=
      Entries.get?_modify tables.inDegrees name other (· + 1)
    rw [List.foldl_cons, ih, step, Option.map_map]
    refine congrArg (Option.map · _) (funext fun count => ?_)
    by_cases here : other = name
    · simp only [Function.comp_apply, if_pos here, List.length_cons]
      omega
    · simp [here]

theorem keys_inDegrees_links (references : List String) (name : String) (tables : Tables) :
    (references.foldl (link name) tables).inDegrees.keys = tables.inDegrees.keys := by
  induction references generalizing tables with
  | nil => rfl
  | cons reference references ih =>
    have step : (link name tables reference).inDegrees.keys = tables.inDegrees.keys :=
      Entries.keys_modify tables.inDegrees name (· + 1)
    rw [List.foldl_cons, ih, step]

/-- The outer loop appends to the dependents of a name those that refer to it. -/
theorem get?_dependents_linkAll (entries : Entries Value) (name : String) (tables : Tables) :
    (entries.foldl (linkAll conditions) tables).dependents.get? name =
      (tables.dependents.get? name).map fun dependents => dependents ++ Entries.keys
        (entries.filter fun entry => name ∈ Condition.references conditions entry.2) := by
  induction entries generalizing tables with
  | nil => simp [Entries.keys]
  | cons entry entries ih =>
    have step : (linkAll conditions tables entry).dependents.get? name = _ :=
      get?_dependents_links (references_nodup conditions entry.2) entry.1 name tables
    rw [List.foldl_cons, ih, step, Option.map_map]
    refine congrArg (Option.map · _) (funext fun dependents => ?_)
    by_cases refers : name ∈ Condition.references conditions entry.2
    · simp [refers]
    · simp [refers]

/-- The outer loop comes to the references of a condition once. -/
theorem get?_inDegrees_linkAll {entries : Entries Value} (distinct : entries.Distinct)
    (name : String) (tables : Tables) :
    (entries.foldl (linkAll conditions) tables).inDegrees.get? name =
      (tables.inDegrees.get? name).map fun count => count +
        (entries.get? name).elim 0 fun expression =>
          (Condition.references conditions expression).length := by
  induction entries generalizing tables with
  | nil => simp
  | cons entry entries ih =>
    obtain ⟨absent, rest⟩ : entry.1 ∉ Entries.keys entries ∧ Entries.Distinct entries :=
      List.nodup_cons.1 distinct
    have step : (linkAll conditions tables entry).inDegrees.get? name = _ :=
      get?_inDegrees_links (Condition.references conditions entry.2) entry.1 name tables
    rw [List.foldl_cons, ih rest, step, Option.map_map, Entries.get?_cons]
    refine congrArg (Option.map · _) (funext fun count => ?_)
    by_cases here : name = entry.1
    · have later : Entries.get? entries name = none :=
        (Entries.get?_eq_none_iff entries name).2 (here ▸ absent)
      simp [here, here ▸ later]
    · simp [here, Ne.symm here]

theorem keys_inDegrees_linkAll (entries : Entries Value) (tables : Tables) :
    (entries.foldl (linkAll conditions) tables).inDegrees.keys = tables.inDegrees.keys := by
  induction entries generalizing tables with
  | nil => rfl
  | cons entry entries ih =>
    have step : (linkAll conditions tables entry).inDegrees.keys = tables.inDegrees.keys :=
      keys_inDegrees_links (Condition.references conditions entry.2) entry.1 tables
    rw [List.foldl_cons, ih, step]

/-! ## The filled tables -/

section Filled

variable (distinct : conditions.Distinct)
include distinct

theorem fill_eq : fill conditions =
    conditions.foldl (linkAll conditions) (declared conditions.keys) := by
  have start : conditions.keys.foldl declare {} = declared conditions.keys :=
    @foldl_declare [] conditions.keys distinct
  rw [fill, start]

/-- **The first table holds the dependents of each condition**, and nothing for other names. -/
theorem dependentsOf_fill (name : String) :
    (fill conditions).dependentsOf name = (ofConditions conditions).dependents name := by
  have start : (declared conditions.keys).dependents.get? name = _ :=
    Entries.get?_map_pair (fun _ => ([] : List String)) conditions.keys name
  unfold dependentsOf
  rw [fill_eq distinct, get?_dependents_linkAll, start, Graph.dependents, names_ofConditions]
  by_cases known : name ∈ conditions.keys
  · have edges : (ofConditions conditions).edges.filter (fun edge => edge.2.contains name) =
        (conditions.filter fun entry => name ∈ Condition.references conditions entry.2).map
          fun entry => (entry.1, Condition.references conditions entry.2) := by
      rw [ofConditions, List.filter_map]
      simp only [Function.comp_def, List.contains_eq_mem]
    rw [if_pos known, if_pos known, edges, List.map_map]
    rfl
  · rw [if_neg known, if_neg known]
    rfl

/-- **The second table holds the number of references of each condition**, as they are declared. -/
theorem inDegrees_fill : (fill conditions).inDegrees = (ofConditions conditions).inDegrees := by
  have names : (fill conditions).inDegrees.keys = conditions.keys := by
    rw [fill_eq distinct, keys_inDegrees_linkAll]
    simp [declared, Entries.keys]
  have also : (ofConditions conditions).inDegrees.keys = conditions.keys := by
    rw [← names_ofConditions]
    simp [Graph.inDegrees, Graph.names, Entries.keys]
  refine Entries.eq_of_get?_eq ?_ (names.trans also.symm) fun name => ?_
  · unfold Entries.Distinct
    rw [names]
    exact distinct
  · have start : (declared conditions.keys).inDegrees.get? name = _ :=
      Entries.get?_map_pair (fun _ => 0) conditions.keys name
    rw [fill_eq distinct, get?_inDegrees_linkAll distinct, start, get?_inDegrees_ofConditions]
    cases found : conditions.get? name with
    | none => rw [if_neg ((Entries.get?_eq_none_iff _ _).1 found)]; rfl
    | some expression =>
      have known : name ∈ conditions.keys := Entries.mem_keys_of_get?_eq_some found
      rw [if_pos known]
      simp

end Filled

end Tables

/-! ## Well-formed graphs -/

/-- The edges of the graph are the references of the conditions, seen from both sides. -/
structure WellFormed (graph : Graph) (conditions : Entries Value) : Prop where
  nodup : ∀ name, (graph.dependents name).Nodup
  /-- Dependents are listed in the order of their declaration. -/
  ordered : ∀ name, (graph.dependents name).Sublist conditions.keys
  /-- The dependents of a condition are those in whose expressions its name occurs as a text. -/
  mem_iff : ∀ name ∈ conditions.keys, ∀ other, other ∈ graph.dependents name ↔
    ∃ expression, conditions.get? other = some expression ∧ (Value.string name).Within expression
  /-- A condition waits for as many references as there are conditions that it depends on. -/
  inDegree : ∀ name ∈ conditions.keys, graph.inDegrees.get? name =
    some (conditions.keys.filter fun other => name ∈ graph.dependents other).length
  undeclared : ∀ name, name ∉ conditions.keys → graph.dependents name = []

theorem mem_dependents_ofConditions_iff {conditions : Entries Value}
    (distinct : conditions.Distinct) {name other : String} :
    other ∈ (ofConditions conditions).dependents name ↔ Condition.Refers conditions other name := by
  rw [mem_dependents_iff (ofConditions_sound distinct), ofConditions_refers_iff]

/-- Each reference of a condition is a condition among whose dependents it is, and there are no
others. -/
theorem length_references {conditions : Entries Value} (distinct : conditions.Distinct)
    {name : String} {expression : Value} (found : conditions.get? name = some expression) :
    (Condition.references conditions expression).length =
      (conditions.keys.filter fun other =>
        name ∈ (ofConditions conditions).dependents other).length := by
  refine ((List.perm_ext_iff_of_nodup (references_nodup conditions expression)
    (List.Nodup.filter _ distinct)).2 fun other => ?_).length_eq
  rw [List.mem_filter, decide_eq_true_iff, mem_dependents_ofConditions_iff distinct,
    Condition.mem_references_iff]
  constructor
  · rintro ⟨declared, inside⟩
    exact ⟨declared, expression, found, declared, inside⟩
  · rintro ⟨declared, again, same, -, inside⟩
    cases found.symm.trans same
    exact ⟨declared, inside⟩

/-- **The graph of conditions is well formed**, whatever their expressions are, and it is what is
filled into two tables in loops over the conditions and their references. -/
theorem ofConditions_wellFormed (conditions : Entries Value) (distinct : conditions.Distinct) :
    (ofConditions conditions).WellFormed conditions ∧
      (∀ name, (Tables.fill conditions).dependentsOf name =
        (ofConditions conditions).dependents name) ∧
      (Tables.fill conditions).inDegrees = (ofConditions conditions).inDegrees := by
  have sound := ofConditions_sound distinct
  refine ⟨⟨dependents_nodup sound, fun name => ?_, fun name declared other => ?_,
    fun name declared => ?_, fun name undeclared => ?_⟩, Tables.dependentsOf_fill distinct,
    Tables.inDegrees_fill distinct⟩
  · rw [← names_ofConditions]
    exact dependents_sublist (ofConditions conditions) name
  · rw [mem_dependents_ofConditions_iff distinct]
    exact exists_congr fun expression => and_congr_right fun _ => and_iff_right declared
  · obtain ⟨expression, found⟩ := Entries.exists_get?_eq_some_of_mem_keys declared
    rw [get?_inDegrees_ofConditions, found, Option.map_some, length_references distinct found]
  · rw [← names_ofConditions] at undeclared
    exact if_neg undeclared

/-- A condition that names another one twice, and one that names itself, both of the others at
different depths, and something that is not declared. -/
def repeating : Entries Value :=
  [("Loop", .map [("Fn::And", .list [.map [("Condition", .string "Loop")],
      .list [.string "A", .list [.string "Twice"]], .string "Unknown"])]),
    ("A", .bool true),
    ("Twice", .map [("Fn::Or", .list [.string "A", .map [("Fn::Not", .list [.string "A"])]])])]

/-- The condition that is named twice has a dependent once, and the one that names itself waits for
itself and both of the others. -/
theorem ofConditions_wellFormed_repeating :
    repeating.Distinct ∧
      (Tables.fill repeating).dependentsOf "A" = ["Loop", "Twice"] ∧
      (Tables.fill repeating).dependentsOf "Unknown" = [] ∧
      (ofConditions repeating).inDegrees.get? "Loop" = some 3 ∧
      (ofConditions repeating).inDegrees.get? "Twice" = some 1 ∧
      ∃ expression, repeating.get? "Loop" = some expression ∧
        (Value.string "Loop").Within expression := by
  have distinct : repeating.Distinct := by decide
  obtain ⟨formed, dependents, -⟩ := ofConditions_wellFormed repeating distinct
  exact ⟨distinct, (dependents "A").trans rfl,
    (dependents "Unknown").trans (formed.undeclared "Unknown" (by decide)),
    (formed.inDegree "Loop" (by decide)).trans rfl, (formed.inDegree "Twice" (by decide)).trans rfl,
    (formed.mem_iff "Loop" (by decide) "Loop").1 (by decide)⟩

end Condition.Graph

end CloudTemplate

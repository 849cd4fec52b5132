import CloudTemplate.Condition.Evaluate
import CloudTemplate.Proofs.Condition.Order
import CloudTemplate.Proofs.Outcome

/-!
# Conditions as equations

A section of conditions is a system of equations: the truth of each condition is what its
expression decides when the names of conditions in it are replaced by their truth. The evaluation
knows only a part of the results when it comes to a condition, but that part has all names that
matter there, and so it evaluates as the whole would (`substitute_eq_of_agree`). Whatever it
finds therefore solves the equations (`judgeInOrder_solves`), and it finds every solution
(`exists_judgeInOrder_of_solves`). It succeeds with the only solution, if there is one and the
references have no circle (`evaluateAll_iff_solves`).
-/

set_option autoImplicit false

namespace CloudTemplate.Condition

/-- The expression resolves to a value that is no call any more and has this truth. -/
def Decides (isCall : Value → Bool) (answer : Value → Except Error Value) (expression : Value)
    (truth : Bool) : Prop :=
  ∃ value, answer expression = .ok value ∧ isCall value = false ∧ value.toBool = .ok truth

/-- The results solve the equations of the conditions: they are for all of these, and each
expression, with all results in place of the names, decides the result of its condition. -/
structure Solves (isCall : Value → Bool) (answer : Value → Except Error Value)
    (conditions : Entries Value) (results : Results) : Prop where
  names : ∀ name, name ∈ results.keys ↔ name ∈ conditions.keys
  equations : ∀ name expression, conditions.get? name = some expression →
    ∃ truth, results.get? name = some truth ∧
      Decides isCall answer (substitute results expression) truth

/-! ## Substitution -/

/-- A scalar that is not the name of a condition stays as it is. -/
theorem substitute_of_isScalar {results : Results} {value : Value} (scalar : value.IsScalar)
    (other : ∀ name, value = .string name → results.get? name = none) :
    substitute results value = value := by
  cases value with
  | list items => exact scalar.elim
  | map entries => exact scalar.elim
  | string name => rw [substitute, other name rfl]
  | _ => rfl

theorem substitute_list (results : Results) (items : List Value) :
    substitute results (.list items) = .list (items.map (substitute results)) := by
  have each : substituteItems results items = items.map (substitute results) := by
    induction items with
    | nil => rfl
    | cons item items ih => rw [substituteItems, ih, List.map_cons]
  rw [substitute, each]

theorem substitute_map {results : Results} {entries : Entries Value}
    (unnamed : namedResult? results entries = none) :
    substitute results (.map entries) =
      .map (entries.map fun entry => (entry.1, substitute results entry.2)) := by
  have each : substituteEntries results entries =
      entries.map fun entry => (entry.1, substitute results entry.2) := by
    clear unnamed
    induction entries with
    | nil => rfl
    | cons entry entries ih => rw [substituteEntries, ih, List.map_cons]
  rw [substitute, unnamed, each]

/-- Only results for names that occur in an expression matter for it. -/
theorem substitute_congr {first second : Results} (expression : Value)
    (agree : ∀ name, (Value.string name).Within expression →
      first.get? name = second.get? name) :
    substitute first expression = substitute second expression := by
  induction expression using Value.nested_induction with
  | scalar value scalar =>
    cases value with
    | list items => exact scalar.elim
    | map entries => exact scalar.elim
    | string name =>
      unfold substitute
      rw [agree name (.self _)]
    | _ => rfl
  | list items ih =>
    rw [substitute_list, substitute_list]
    refine congrArg Value.list (List.map_congr_left fun item member => ?_)
    exact ih item member fun name occurs => agree name (.item member occurs)
  | map entries ih =>
    have named : namedResult? first entries = namedResult? second entries := by
      unfold namedResult?
      split
      · next key name =>
        rw [agree name (.child List.mem_cons_self (.self _))]
      · rfl
    cases unnamed : namedResult? second entries with
    | some truth => rw [substitute, substitute, named, unnamed]
    | none =>
      rw [substitute_map (named.trans unnamed), substitute_map unnamed]
      refine congrArg Value.map (List.map_congr_left fun entry member => ?_)
      rw [ih entry member fun name occurs => agree name (.child member occurs)]

/-- Results for declared conditions that agree on the references of a condition are the same for
its expression. -/
theorem substitute_eq_of_agree {conditions : Entries Value} {first second : Results}
    (known : first.keys ⊆ conditions.keys) (also : second.keys ⊆ conditions.keys) {name : String}
    {expression : Value} (found : conditions.get? name = some expression)
    (agree : ∀ other, Refers conditions name other → first.get? other = second.get? other) :
    substitute first expression = substitute second expression := by
  have absent : ∀ {results : Results}, results.keys ⊆ conditions.keys → ∀ {other : String},
      other ∉ conditions.keys → results.get? other = none :=
    fun inside _ undeclared => (Entries.get?_eq_none_iff _ _).2 fun member =>
      undeclared (inside member)
  refine substitute_congr expression fun other occurs => ?_
  by_cases declared : other ∈ conditions.keys
  · exact agree other ⟨expression, found, declared, occurs⟩
  · rw [absent known declared, absent also declared]

/-! ## Evaluation without trails -/

/-- The truth of a condition, given what values resolve to. -/
def judge (isCall : Value → Bool) (answer : Value → Except Error Value) (results : Results)
    (name : String) (expression : Value) : Except Error Bool := do
  let value ← (answer (substitute results expression)).mapError (Error.condition name)
  if isCall value then .error (.unresolvableCondition name)
  else value.toBool.mapError (Error.condition name)

/-- The truth of conditions one after the other, given what values resolve to. -/
def judgeInOrder (isCall : Value → Bool) (answer : Value → Except Error Value)
    (conditions : Entries Value) (results : Results) : List String → Except Error Results
  | [] => .ok results
  | name :: names =>
    match conditions.get? name with
    | none => judgeInOrder isCall answer conditions results names
    | some expression => do
      let truth ← judge isCall answer results name expression
      judgeInOrder isCall answer conditions (results.insert name truth) names

section Steady

variable {isCall : Value → Bool} {resolve : Value → Tracked Value}
  {answer : Value → Except Error Value}
  (steady : ∀ value, Attempt.Yields (resolve value) (answer value))
include steady

theorem evaluate_yields (results : Results) (name : String) (expression : Value) :
    Attempt.Yields (evaluate isCall resolve results name expression)
      (judge isCall answer results name expression) := by
  refine ((steady _).adapt (Error.condition name)).bind fun value => ?_
  cases isCall value with
  | true => exact .throw _
  | false => exact (Attempt.Yields.ofExcept value.toBool).adapt (Error.condition name)

theorem evaluateInOrder_yields (conditions : Entries Value) (results : Results)
    (names : List String) :
    Attempt.Yields (evaluateInOrder isCall resolve conditions results names)
      (judgeInOrder isCall answer conditions results names) := by
  induction names generalizing results with
  | nil => exact .pure results
  | cons name names ih =>
    unfold evaluateInOrder judgeInOrder
    cases conditions.get? name with
    | none => exact ih results
    | some expression =>
      refine (evaluate_yields steady results name expression).bind fun truth => ?_
      exact .after (fun _ => rfl) (ih _)

theorem evaluateAll_yields (conditions : Entries Value) :
    Attempt.Yields (evaluateAll isCall resolve conditions) (do
      let order ← (Graph.ofConditions conditions).order
      judgeInOrder isCall answer conditions [] order) := by
  refine (Attempt.Yields.ofExcept _).bind fun order => ?_
  exact .after (fun _ => rfl) (evaluateInOrder_yields steady conditions [] order)

end Steady

theorem mapError_eq_ok_iff {α : Type} {f : Error → Error} {result : Except Error α} {value : α} :
    result.mapError f = .ok value ↔ result = .ok value := by
  cases result with
  | error error => exact ⟨nofun, nofun⟩
  | ok found => exact Iff.rfl

theorem judge_eq_ok_iff {isCall : Value → Bool} {answer : Value → Except Error Value}
    {results : Results} {name : String} {expression : Value} {truth : Bool} :
    judge isCall answer results name expression = .ok truth ↔
      Decides isCall answer (substitute results expression) truth := by
  unfold judge Decides
  rw [bind_eq_ok_iff]
  refine exists_congr fun value => and_congr mapError_eq_ok_iff ?_
  cases isCall value with
  | true =>
    rw [if_pos rfl]
    exact ⟨nofun, nofun⟩
  | false =>
    rw [if_neg Bool.false_ne_true, mapError_eq_ok_iff]
    exact (and_iff_right rfl).symm

/-! ## Evaluation in order -/

section InOrder

variable {isCall : Value → Bool} {answer : Value → Except Error Value}
  {conditions : Entries Value} {order : List String} (all : order.Perm conditions.keys)
  (distinct : order.Nodup)
  (after : ∀ before name after, order = before ++ name :: after →
    ∀ other, Refers conditions name other → other ∈ before)

section Position

variable {before rest : List String} {name : String} (split : order = before ++ name :: rest)
include split

include all in
theorem exists_expression : ∃ expression, conditions.get? name = some expression := by
  refine Entries.exists_get?_eq_some_of_mem_keys (all.mem_iff.1 ?_)
  rw [split]
  exact List.mem_append_right _ List.mem_cons_self

include distinct in
/-- The results for what comes before are continued at the end. -/
theorem keys_insert_of_split {results : Results} (so_far : results.keys = before) (truth : Bool) :
    (results.insert name truth).keys = before ++ [name] := by
  have fresh : name ∉ before := not_mem_of_nodup_middle (split ▸ distinct)
  rw [Entries.keys_insert, so_far, if_neg fresh]

include distinct in
theorem get?_insert_of_split (results : Results) (truth : Bool) {other : String}
    (earlier : other ∈ before) : (results.insert name truth).get? other = results.get? other := by
  have fresh : name ∉ before := not_mem_of_nodup_middle (split ▸ distinct)
  have differs : name ≠ other := fun same => fresh (same ▸ earlier)
  rw [Entries.get?_insert, if_neg differs]

include all after in
/-- The results for what comes before stand for all results. -/
theorem substitute_eq_of_split {results whole : Results} (so_far : results.keys = before)
    (known : whole.keys ⊆ conditions.keys)
    (agree : ∀ other ∈ before, results.get? other = whole.get? other) {expression : Value}
    (written : conditions.get? name = some expression) :
    substitute results expression = substitute whole expression := by
  have declared : results.keys ⊆ conditions.keys := by
    intro other member
    rw [so_far] at member
    rw [← all.mem_iff, split]
    exact List.mem_append_left _ member
  exact substitute_eq_of_agree declared known written fun other refers =>
    agree other (after before name rest split other refers)

end Position

include all distinct after

/-- What is found when the rest of the order is evaluated: the results so far stay, and the others
solve their equations. -/
theorem judgeInOrder_equations {rest before : List String} {results found : Results}
    (split : order = before ++ rest) (so_far : results.keys = before)
    (judged : judgeInOrder isCall answer conditions results rest = .ok found) :
    found.keys = order ∧ (∀ name ∈ before, results.get? name = found.get? name) ∧
      ∀ name ∈ rest, ∀ expression, conditions.get? name = some expression →
        ∃ truth, found.get? name = some truth ∧
          Decides isCall answer (substitute found expression) truth := by
  induction rest generalizing before results with
  | nil =>
    cases judged
    rw [List.append_nil] at split
    exact ⟨so_far.trans split.symm, fun _ _ => rfl, List.forall_mem_nil _⟩
  | cons name rest ih =>
    obtain ⟨expression, written⟩ := exists_expression all split
    unfold judgeInOrder at judged
    rw [written] at judged
    dsimp only at judged
    obtain ⟨truth, decided, judged⟩ := bind_eq_ok_iff.1 judged
    have further : order = (before ++ [name]) ++ rest := by
      rw [split, List.append_assoc, List.singleton_append]
    obtain ⟨keys, stay, solved⟩ := ih further (keys_insert_of_split distinct split so_far truth)
      judged
    have here : found.get? name = some truth := by
      rw [← stay name (List.mem_append_right _ List.mem_cons_self), Entries.get?_insert,
        if_pos rfl]
    have earlier : ∀ other ∈ before, results.get? other = found.get? other := by
      intro other member
      rw [← stay other (List.mem_append_left _ member),
        get?_insert_of_split distinct split results truth member]
    refine ⟨keys, earlier, List.forall_mem_cons.2 ⟨?_, solved⟩⟩
    intro other same
    rw [written] at same
    cases same
    have known : found.keys ⊆ conditions.keys := by
      rw [keys]
      exact all.subset
    rw [← substitute_eq_of_split all after split so_far known earlier written]
    exact ⟨truth, here, judge_eq_ok_iff.1 decided⟩

/-- The evaluation in order solves the equations. -/
theorem judgeInOrder_solves {found : Results}
    (judged : judgeInOrder isCall answer conditions [] order = .ok found) :
    found.keys = order ∧ Solves isCall answer conditions found := by
  obtain ⟨keys, _, solved⟩ := judgeInOrder_equations all distinct after rfl rfl judged
  refine ⟨keys, fun name => ?_, fun name expression written => ?_⟩
  · rw [keys]
    exact all.mem_iff
  · have declared : name ∈ conditions.keys := Entries.mem_keys_of_get?_eq_some written
    exact solved name (all.mem_iff.2 declared) expression written

/-- The evaluation of the rest of the order finds a solution of which it knows the part so far. -/
theorem exists_judgeInOrder_rest {solution : Results}
    (solves : Solves isCall answer conditions solution) {rest before : List String}
    {results : Results} (split : order = before ++ rest) (so_far : results.keys = before)
    (agree : ∀ name ∈ before, results.get? name = solution.get? name) :
    ∃ found, judgeInOrder isCall answer conditions results rest = .ok found ∧
      found.keys = order ∧ ∀ name ∈ order, found.get? name = solution.get? name := by
  induction rest generalizing before results with
  | nil =>
    rw [List.append_nil] at split
    subst split
    exact ⟨results, rfl, so_far, agree⟩
  | cons name rest ih =>
    obtain ⟨expression, written⟩ := exists_expression all split
    obtain ⟨truth, here, decides⟩ := solves.equations name expression written
    have known : solution.keys ⊆ conditions.keys := fun other => (solves.names other).1
    rw [← substitute_eq_of_split all after split so_far known agree written] at decides
    have judged : judge isCall answer results name expression = .ok truth :=
      judge_eq_ok_iff.2 decides
    have further : order = (before ++ [name]) ++ rest := by
      rw [split, List.append_assoc, List.singleton_append]
    have again : ∀ other ∈ before ++ [name],
        (results.insert name truth).get? other = solution.get? other := by
      intro other member
      rcases List.mem_append.1 member with earlier | last
      · rw [get?_insert_of_split distinct split results truth earlier, agree other earlier]
      · obtain rfl := List.mem_singleton.1 last
        rw [Entries.get?_insert, if_pos rfl, here]
    obtain ⟨found, rest_judged, keys, same⟩ :=
      ih further (keys_insert_of_split distinct split so_far truth) again
    refine ⟨found, ?_, keys, same⟩
    unfold judgeInOrder
    rw [written]
    dsimp only
    rw [judged]
    exact rest_judged

/-- The evaluation in order finds every solution. -/
theorem exists_judgeInOrder_of_solves {solution : Results} (once : solution.Distinct)
    (solves : Solves isCall answer conditions solution) :
    ∃ found, judgeInOrder isCall answer conditions [] order = .ok found ∧ found.Perm solution := by
  have start : Entries.keys ([] : Results) = [] := rfl
  obtain ⟨found, judged, keys, same⟩ := exists_judgeInOrder_rest all distinct after solves
    (List.nil_append order).symm start (List.forall_mem_nil _)
  have found_once : found.Distinct := by
    unfold Entries.Distinct
    rw [keys]
    exact distinct
  refine ⟨found, judged, (Entries.perm_iff_get?_eq found_once once).2 fun name => ?_⟩
  by_cases member : name ∈ order
  · exact same name member
  · have absent : name ∉ solution.keys := fun known =>
      member (all.mem_iff.2 ((solves.names name).1 known))
    rw [(Entries.get?_eq_none_iff solution name).2 absent, Entries.get?_eq_none_iff, keys]
    exact member

end InOrder

/-- Solutions do not depend on the order of their entries. -/
theorem Solves.perm {isCall : Value → Bool} {answer : Value → Except Error Value}
    {conditions : Entries Value} {results others : Results} (once : results.Distinct)
    (same : results.Perm others) (solves : Solves isCall answer conditions results) :
    Solves isCall answer conditions others := by
  have keys : ∀ name, name ∈ others.keys ↔ name ∈ results.keys :=
    fun name => (same.map Prod.fst).mem_iff.symm
  have others_once : others.Distinct := (same.map Prod.fst).nodup_iff.1 once
  have values := (Entries.perm_iff_get?_eq once others_once).1 same
  refine ⟨fun name => (keys name).trans (solves.names name), ?_⟩
  intro name expression written
  obtain ⟨truth, found, decides⟩ := solves.equations name expression written
  rw [substitute_congr expression fun other _ => values other] at decides
  exact ⟨truth, (values name).symm.trans found, decides⟩

/-- **Evaluation finds the solution of the equations**: it succeeds with results, whatever their
order, if and only if the references have no circle and the results solve the equations. -/
theorem evaluateAll_iff_solves {isCall : Value → Bool} {resolve : Value → Tracked Value}
    {answer : Value → Except Error Value}
    (steady : ∀ value, Attempt.Yields (resolve value) (answer value))
    {conditions : Entries Value} (distinct : conditions.Distinct) {results : Results}
    (once : results.Distinct) (trail : Trail) :
    (∃ found, (evaluateAll isCall resolve conditions).resultFrom trail = .ok found ∧
        found.Perm results) ↔
      (∀ name ∈ conditions.keys, ¬Relation.TransGen (Refers conditions) name name) ∧
        Solves isCall answer conditions results := by
  have sound := Graph.ofConditions_sound distinct
  have refers := Graph.refers_ofConditions conditions
  have acyclic := Graph.exists_order_iff sound
  rw [refers, Graph.names_ofConditions] at acyclic
  rw [evaluateAll_yields steady conditions trail, ← acyclic]
  cases ordered : (Graph.ofConditions conditions).order with
  | error error =>
    constructor
    · rintro ⟨found, judged, _⟩
      cases judged
    · rintro ⟨⟨order, found⟩, _⟩
      cases found
  | ok order =>
    have all : order.Perm conditions.keys := by
      rw [← Graph.names_ofConditions]
      exact Graph.order_perm sound ordered
    have nodup : order.Nodup := all.nodup_iff.2 distinct
    have after : ∀ before name after, order = before ++ name :: after →
        ∀ other, Refers conditions name other → other ∈ before := by
      intro before name after split other reference
      rw [← refers] at reference
      exact Graph.order_after sound ordered split reference
    change (∃ found, judgeInOrder isCall answer conditions [] order = .ok found ∧ _) ↔ _
    constructor
    · rintro ⟨found, judged, same⟩
      obtain ⟨keys, solves⟩ := judgeInOrder_solves all nodup after judged
      have found_once : found.Distinct := by
        unfold Entries.Distinct
        rw [keys]
        exact nodup
      exact ⟨⟨order, rfl⟩, solves.perm found_once same⟩
    · rintro ⟨_, solves⟩
      exact exists_judgeInOrder_of_solves all nodup after once solves

/-- A condition that is declared before the one that it negates. -/
def negated : Entries Value :=
  [("Other", .map [("Fn::Not", .list [.map [("Condition", .string "One")]])]),
    ("One", .map [("Fn::Equals", .list [.map [("Ref", .string "Size")], .string "small"])])]

/-- The equations of the two conditions have no circle, and are solved by the results that the
resolver finds for a given parameter. -/
theorem evaluateAll_iff_solves_negated :
    (∀ value, Attempt.Yields
        (Resolver.resolve Registry.standard
          ⟨Config.standard, [("Size", .string "small")], .null⟩ value)
        (Resolver.outcome Registry.standard
          ⟨Config.standard, [("Size", .string "small")], .null⟩ Config.standard.maxDepth value)) ∧
      negated.Distinct ∧ Entries.Distinct [("Other", false), ("One", true)] ∧
      (∀ name ∈ negated.keys, ¬Relation.TransGen (Refers negated) name name) ∧
      Solves (Value.isCall Config.standard)
        (Resolver.outcome Registry.standard
          ⟨Config.standard, [("Size", .string "small")], .null⟩ Config.standard.maxDepth)
        negated [("Other", false), ("One", true)] := by
  have steady := Resolver.resolve_yields Registry.standard
    ⟨Config.standard, [("Size", .string "small")], .null⟩
  have distinct : negated.Distinct := by decide
  have once : Entries.Distinct [("Other", false), ("One", true)] := by decide
  refine ⟨steady, distinct, once, (evaluateAll_iff_solves steady distinct once {}).1 ?_⟩
  refine ⟨[("One", true), ("Other", false)], ?_, .swap _ _ _⟩
  rw [evaluateAll_yields steady]
  rfl

end CloudTemplate.Condition

import Mathlib.Logic.Basic
import CloudTemplate.Condition.Prune

/-!
# What pruning leaves

Pruning filters the entries of the conditional sections by the conditions that they name, and does
so whatever trail it finds (`prune_run`). Which entries stay depends on the truth of the conditions
only (`pruned_congr`). In a template with different keys the sections are filtered where they stand
(`pruned_eq_map`).

An entry that names a condition keeps its name. Where no conditions are known, such entries are
removed: pruning without results changes nothing exactly when no entry of a conditional section
names a condition (`pruned_nil_eq_self_iff`), and it makes up for any pruning before
(`pruned_nil_pruned`).
-/

set_option autoImplicit false

namespace CloudTemplate.Condition

/-- The entries of a section that stay. -/
def kept (results : Results) (entries : Entries Value) : Entries Value :=
  entries.filter fun entry => isKept results entry.2

/-- The template without the entries of a section that are removed. -/
def prunedAt (results : Results) (template : Entries Value) (name : String) : Entries Value :=
  match template.get? name with
  | some (.map entries) => template.insert name (.map (kept results entries))
  | _ => template

/-- The template without the entries of conditional sections that are removed. -/
def pruned (results : Results) (template : Entries Value) : Entries Value :=
  conditionalSections.foldl (prunedAt results) template

theorem pruneEntries_run (results : Results) (name : String) (entries : Entries Value)
    (trail : Trail) :
    ((pruneEntries results name entries).run trail).1.1 = kept results entries := by
  induction entries generalizing trail with
  | nil => rfl
  | cons entry entries ih =>
    obtain ⟨key, definition⟩ := entry
    unfold pruneEntries kept
    rw [List.filter_cons]
    cases stays : isKept results definition with
    | true => exact congrArg ((key, definition) :: ·) (ih trail)
    | false => exact ih _

theorem pruneSection_run (results : Results) (template : Entries Value) (name : String)
    (trail : Trail) :
    ((pruneSection results template name).run trail).1.1 = prunedAt results template name := by
  unfold pruneSection prunedAt
  cases template.get? name with
  | none => rfl
  | some body =>
    cases body with
    | map entries =>
      exact congrArg (fun left => template.insert name (.map left))
        (pruneEntries_run results name entries trail)
    | _ => rfl

theorem pruneSections_run (results : Results) (names : List String) (template : Entries Value)
    (trail : Trail) :
    ((pruneSections results template names).run trail).1.1 =
      names.foldl (prunedAt results) template := by
  induction names generalizing template trail with
  | nil => rfl
  | cons name names ih =>
    rw [List.foldl_cons, ← pruneSection_run results template name trail]
    exact ih _ _

/-- Pruning leaves the entries that stay. -/
theorem prune_run (results : Results) (template : Entries Value) (trail : Trail) :
    ((prune results template).run trail).1.1 = pruned results template :=
  pruneSections_run results conditionalSections template trail

/-! ## Pruning in place -/

/-- The body of a conditional section without the entries that are removed. -/
def prunedBody (results : Results) : Value → Value
  | .map entries => .map (kept results entries)
  | body => body

theorem prunedAt_cons (results : Results) (entry : String × Value) (template : Entries Value)
    (name : String) :
    prunedAt results (entry :: template) name =
      if entry.1 = name then (entry.1, prunedBody results entry.2) :: template
      else entry :: prunedAt results template name := by
  obtain ⟨key, body⟩ := entry
  unfold prunedAt
  rw [Entries.get?_cons]
  by_cases here : key = name
  · rw [if_pos here, if_pos here]
    cases body with
    | map entries =>
      dsimp only [prunedBody]
      unfold Entries.insert
      rw [if_pos here, here]
    | _ => rfl
  · rw [if_neg here, if_neg here]
    cases Entries.get? template name with
    | none => rfl
    | some found =>
      cases found with
      | map entries =>
        dsimp only
        rw [Entries.insert, if_neg here]
      | _ => rfl

theorem prunedAt_of_not_mem (results : Results) {template : Entries Value} {name : String}
    (absent : name ∉ template.keys) : prunedAt results template name = template := by
  unfold prunedAt
  rw [(Entries.get?_eq_none_iff template name).2 absent]

/-- A section is pruned where it stands. -/
theorem prunedAt_eq_map (results : Results) {template : Entries Value}
    (distinct : template.Distinct) (name : String) :
    prunedAt results template name = template.map fun entry =>
      (entry.1, if entry.1 = name then prunedBody results entry.2 else entry.2) := by
  induction template with
  | nil => rfl
  | cons entry template ih =>
    obtain ⟨absent, rest⟩ : entry.1 ∉ Entries.keys template ∧ Entries.Distinct template :=
      List.nodup_cons.1 distinct
    rw [prunedAt_cons, List.map_cons, ← ih rest]
    by_cases here : entry.1 = name
    · rw [if_pos here, if_pos here, prunedAt_of_not_mem results (here ▸ absent)]
    · rw [if_neg here, if_neg here]

/-- All conditional sections are pruned where they stand. -/
theorem pruned_eq_map (results : Results) {template : Entries Value}
    (distinct : template.Distinct) :
    pruned results template = template.map fun entry =>
      (entry.1, if entry.1 ∈ conditionalSections then prunedBody results entry.2 else entry.2) := by
  have first := prunedAt_eq_map results distinct "Resources"
  have still : (prunedAt results template "Resources").Distinct := by
    unfold Entries.Distinct Entries.keys
    rw [first, List.map_map]
    exact distinct
  change prunedAt results (prunedAt results template "Resources") "Outputs" = _
  rw [prunedAt_eq_map results still, first, List.map_map]
  refine List.map_congr_left fun entry _ => ?_
  unfold conditionalSections
  by_cases resources : entry.1 = "Resources"
  · simp [resources]
  · simp [resources]

theorem get?_prunedAt (results : Results) (template : Entries Value) (name wanted : String) :
    (prunedAt results template name).get? wanted =
      if wanted = name then (template.get? name).map (prunedBody results)
      else template.get? wanted := by
  unfold prunedAt
  cases found : template.get? name with
  | none =>
    by_cases here : wanted = name
    · rw [if_pos here, here]
      exact found
    · rw [if_neg here]
  | some body =>
    cases body with
    | map entries =>
      rw [Entries.get?_insert]
      by_cases here : wanted = name
      · rw [if_pos here, if_pos here.symm]
        rfl
      · rw [if_neg here, if_neg fun same => here same.symm]
    | _ =>
      by_cases here : wanted = name
      · rw [if_pos here, here]
        exact found
      · rw [if_neg here]

/-- What is at a name after pruning. -/
theorem get?_pruned (results : Results) (template : Entries Value) (name : String) :
    (pruned results template).get? name =
      if name ∈ conditionalSections then (template.get? name).map (prunedBody results)
      else template.get? name := by
  change (prunedAt results (prunedAt results template "Resources") "Outputs").get? name = _
  rw [get?_prunedAt, get?_prunedAt, get?_prunedAt, if_neg (by decide : "Outputs" ≠ "Resources")]
  unfold conditionalSections
  by_cases outputs : name = "Outputs"
  · simp [outputs]
  · by_cases resources : name = "Resources" <;> simp [outputs, resources]

/-- Only the truth of the conditions matters for what is removed. -/
theorem pruned_congr {results others : Results}
    (same : ∀ name, results.get? name = others.get? name) : pruned results = pruned others := by
  have stays : isKept results = isKept others := by
    funext definition
    unfold isKept
    simp only [same]
  unfold pruned prunedAt kept
  rw [stays]

/-! ## Pruning without results -/

/-- The definition does not name a condition. -/
def Unconditional (definition : Value) : Prop :=
  ∀ name, definition.get? nameKey ≠ some (.string name)

theorem isKept_of_unconditional {definition : Value} (free : Unconditional definition)
    (results : Results) : isKept results definition = true := by
  unfold isKept
  split
  · next name found => exact absurd found (free name)
  · rfl

/-- Without results the entries stay that name no condition. -/
theorem isKept_nil_iff {definition : Value} :
    isKept [] definition = true ↔ Unconditional definition := by
  constructor
  · intro stays name found
    unfold isKept at stays
    rw [found] at stays
    cases stays
  · exact fun free => isKept_of_unconditional free []

/-- What stays without results stays with any. -/
theorem kept_nil_kept (results : Results) (entries : Entries Value) :
    kept [] (kept results entries) = kept [] entries := by
  unfold kept
  rw [List.filter_filter]
  refine List.filter_congr fun entry _ => ?_
  cases stays : isKept [] entry.2 with
  | true => exact isKept_of_unconditional (isKept_nil_iff.1 stays) results
  | false => rfl

theorem prunedBody_nil_prunedBody (results : Results) (body : Value) :
    prunedBody [] (prunedBody results body) = prunedBody [] body := by
  cases body with
  | map entries => exact congrArg Value.map (kept_nil_kept results entries)
  | _ => rfl

/-- Pruning keeps the sections. -/
theorem keys_pruned (results : Results) {template : Entries Value} (distinct : template.Distinct) :
    (pruned results template).keys = template.keys := by
  rw [pruned_eq_map results distinct]
  unfold Entries.keys
  rw [List.map_map]
  rfl

theorem distinct_pruned (results : Results) {template : Entries Value}
    (distinct : template.Distinct) : (pruned results template).Distinct := by
  unfold Entries.Distinct
  rw [keys_pruned results distinct]
  exact distinct

/-- Pruning without results removes all that any pruning removes. -/
theorem pruned_nil_pruned (results : Results) {template : Entries Value}
    (distinct : template.Distinct) : pruned [] (pruned results template) = pruned [] template := by
  rw [pruned_eq_map [] (distinct_pruned results distinct), pruned_eq_map results distinct,
    pruned_eq_map [] distinct, List.map_map]
  refine List.map_congr_left fun entry _ => Prod.ext rfl ?_
  dsimp only [Function.comp_apply]
  by_cases conditional : entry.1 ∈ conditionalSections
  · rw [if_pos conditional, if_pos conditional, if_pos conditional, prunedBody_nil_prunedBody]
  · rw [if_neg conditional, if_neg conditional, if_neg conditional]

theorem prunedBody_nil_eq_self_iff {body : Value} :
    prunedBody [] body = body ↔
      ∀ entries, body = .map entries → ∀ entry ∈ entries, Unconditional entry.2 := by
  cases body with
  | map entries =>
    unfold prunedBody kept
    rw [Value.map.injEq, List.filter_eq_self]
    simp only [isKept_nil_iff]
    constructor
    · intro all others same
      cases same
      exact all
    · intro all
      exact all entries rfl
  | _ => exact ⟨nofun, fun _ => rfl⟩

/-- **Pruning without results changes nothing** exactly when no entry of a conditional section
names a condition. -/
theorem pruned_nil_eq_self_iff {template : Entries Value} (distinct : template.Distinct) :
    pruned [] template = template ↔
      ∀ name ∈ conditionalSections, ∀ entries, template.get? name = some (.map entries) →
        ∀ entry ∈ entries, Unconditional entry.2 := by
  have in_place : pruned [] template = template ↔ ∀ entry ∈ template,
      entry.1 ∈ conditionalSections → prunedBody [] entry.2 = entry.2 := by
    rw [pruned_eq_map [] distinct, Eq.congr_right (List.map_id template).symm, List.map_inj_left]
    refine forall₂_congr fun entry _ => ?_
    by_cases conditional : entry.1 ∈ conditionalSections
    · rw [if_pos conditional]
      exact ⟨fun same _ => congrArg Prod.snd same, fun same => Prod.ext rfl (same conditional)⟩
    · rw [if_neg conditional]
      exact ⟨fun _ here => absurd here conditional, fun _ => rfl⟩
  rw [in_place]
  constructor
  · intro all name conditional entries found
    exact prunedBody_nil_eq_self_iff.1 (all _ (Entries.mem_of_get?_eq_some found) conditional)
      entries rfl
  · intro all entry member conditional
    refine prunedBody_nil_eq_self_iff.2 fun entries body => ?_
    exact all entry.1 conditional entries (body ▸ Entries.get?_eq_some_of_mem distinct member)

end CloudTemplate.Condition

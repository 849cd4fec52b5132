import CloudTemplate.Proofs.Shape
import CloudTemplate.Proofs.Template.Outcome

/-!
# Tables that look each other up

The entries of tables are resolved when they are looked up, and an entry may be a look-up itself. It
need not be smaller than the call that finds it, so nothing but the limit of nesting ends a
resolution that goes round in a circle: an entry that looks up an entry, and so on, until the first
one is looked up again (`Mapping.IsCycle`).

A look-up with written names takes one level and then is what its entry is (`outcome_lookup`), with
no level left too, for then its names cannot be resolved. A value that is, with one level less, what
another such value is exceeds every number of levels (`exceeded_of_progress`). So a look-up into a
cycle never gives a value, whatever the limit is and wherever the cycle is entered, and a template
in which a resolution comes past the cycle is given back as it was
(`Resolution.resolveFunctions_cycle`).
-/

set_option autoImplicit false

namespace CloudTemplate

namespace Mapping

/-- A place in the tables of a template. -/
structure Place where
  table : String
  outer : String
  inner : String
  deriving Repr, DecidableEq

namespace Place

/-- The names of the place as arguments of a call. -/
def names (place : Place) : Value :=
  .list [.string place.table, .string place.outer, .string place.inner]

/-- The look-up of the place, with the names written out. -/
def lookup (place : Place) : Value :=
  .ofCall "Fn::FindInMap" place.names

/-- The entry of a template at the place. -/
def value? (place : Place) (template : Value) : Option Value :=
  entry? template place.table place.outer place.inner

/-- The template, its tables, and the table and the row that lead to the place are no calls. -/
def Open (place : Place) (config : Config) (template : Value) : Prop :=
  template.isCall config = false ∧
    ∀ tables, template.get? tablesSection = some tables → tables.isCall config = false ∧
      ∀ rows, tables.get? place.table = some rows → rows.isCall config = false ∧
        ∀ row, rows.get? place.outer = some row → row.isCall config = false

end Place

/-- The entry at each place looks up the next place, and the one at the last place the first. -/
def IsCycle (template : Value) {last : Nat} (cycle : Fin (last + 1) → Place) : Prop :=
  ∀ i, (cycle i).value? template = some (cycle (i + 1)).lookup

end Mapping

namespace Resolver

variable {registry : Registry} {scope : Scope}

/-- Values of which each is what another one is with a level less exceed every number of levels. -/
theorem exceeded_of_progress (holds : Value → Prop)
    (progress : ∀ value, holds value → ∃ next, holds next ∧
      ∀ levels, outcome registry scope (levels + 1) value = outcome registry scope levels next)
    (levels : Nat) {value : Value} (here : holds value) :
    outcome registry scope levels value = .error (.depthExceeded scope.config.maxDepth) := by
  induction levels generalizing value with
  | zero => rfl
  | succ levels ih =>
    obtain ⟨next, also, step⟩ := progress value here
    rw [step levels]
    exact ih also

/-- A map with a child that never resolves never does, unless it is a call. -/
theorem not_resolves_of_get? (ignores : registry.IgnoresDepth) {value child : Value} {key : String}
    (data : value.isCall scope.config = false) (found : value.get? key = some child)
    (never : ∀ result, ¬Resolves registry scope child result) (result : Value) :
    ¬Resolves registry scope value result := by
  intro resolves
  cases value with
  | map entries =>
    obtain ⟨results, -, all⟩ := (resolves_map_iff ignores data).1 resolves
    obtain ⟨other, -, here⟩ := EntryRel.get? all found
    exact never other here
  | _ => cases found

/-- A look-up with written names is, with a level less, what its entry is. -/
theorem outcome_lookup (mark : scope.config.functionMark = "Fn::")
    (reference : scope.config.referenceKey ≠ "Fn::FindInMap") {place : Mapping.Place}
    {value : Value} (found : place.value? scope.template = some value) (levels : Nat) :
    outcome Registry.standard scope (levels + 1) place.lookup =
      outcome Registry.standard scope levels value := by
  let call : Invocation := ⟨"Fn::FindInMap", "FindInMap", place.names, scope⟩
  have is_call : place.lookup.call? scope.config =
      some (.function "Fn::FindInMap" "FindInMap" place.names) :=
    Value.call?_ofCall mark reference.symm rfl place.names
  have known : Registry.standard.function? "FindInMap" = some Mapping.findInMap := rfl
  refine (outcome_function levels is_call known).trans ?_
  cases levels with
  | zero => rfl
  | succ levels =>
    have written : ∀ name, outcome Registry.standard scope (levels + 1) (.string name) =
        .ok (.string name) :=
      fun _ => rfl
    refine (call.outcome_known (written place.table) rfl _).trans ?_
    refine (call.outcome_known (written place.outer) rfl _).trans ?_
    refine (call.outcome_known (written place.inner) rfl _).trans ?_
    have entry : Mapping.entry? scope.template place.table (Value.string place.outer).text
        (Value.string place.inner).text = some value := found
    simp only [Invocation.expectText, pure_bind, entry]
    exact bind_pure (outcome Registry.standard scope (levels + 1) value)

/-- A look-up into a cycle exceeds every number of levels. -/
theorem outcome_cycle {last : Nat} {cycle : Fin (last + 1) → Mapping.Place}
    (circular : Mapping.IsCycle scope.template cycle) (mark : scope.config.functionMark = "Fn::")
    (reference : scope.config.referenceKey ≠ "Fn::FindInMap") (levels : Nat)
    (i : Fin (last + 1)) :
    outcome Registry.standard scope levels (cycle i).lookup =
      .error (.depthExceeded scope.config.maxDepth) := by
  refine exceeded_of_progress (fun value => ∃ i, value = (cycle i).lookup) ?_ levels ⟨i, rfl⟩
  rintro _ ⟨i, rfl⟩
  exact ⟨(cycle (i + 1)).lookup, ⟨i + 1, rfl⟩, outcome_lookup mark reference (circular i)⟩

end Resolver

namespace Resolution

open Resolver

/-- A template never resolves if what it holds at an open place does not. -/
theorem not_resolves_of_open {registry : Registry} {scope : Scope}
    (ignores : registry.IgnoresDepth) {template : Value} {place : Mapping.Place} {value : Value}
    (reached : place.Open scope.config template) (found : place.value? template = some value)
    (never : ∀ result, ¬Resolves registry scope value result) :
    ∀ result, ¬Resolves registry scope template result := by
  obtain ⟨tables, atTables, found⟩ := Option.bind_eq_some_iff.1 found
  obtain ⟨rows, atTable, found⟩ := Option.bind_eq_some_iff.1 found
  obtain ⟨row, atRow, atEntry⟩ := Option.bind_eq_some_iff.1 found
  obtain ⟨root, inside⟩ := reached
  obtain ⟨dataTables, inside⟩ := inside tables atTables
  obtain ⟨dataTable, inside⟩ := inside rows atTable
  have dataRow := inside row atRow
  have neverRow := not_resolves_of_get? ignores dataRow atEntry never
  have neverTable := not_resolves_of_get? ignores dataTable atRow neverRow
  have neverTables := not_resolves_of_get? ignores dataTables atTable neverTable
  exact not_resolves_of_get? ignores root atTables neverTables

/-- **Tables that look each other up end in an error.** A look-up of any place of a cycle exceeds
the limit of nesting, whatever it is. If a place of the cycle can be reached from the root without
a call on the way, the template is given back unchanged and marked as incomplete. -/
theorem resolveFunctions_cycle {template : Value} {last : Nat}
    {cycle : Fin (last + 1) → Mapping.Place} (circular : Mapping.IsCycle template cycle)
    {config : Config} (mark : config.functionMark = "Fn::")
    (reference : config.referenceKey ≠ "Fn::FindInMap") (parameters : Parameters) (trail : Trail) :
    (∀ i, (resolve Registry.standard ⟨config, parameters, template⟩ (cycle i).lookup).resultFrom
      trail = .error (.depthExceeded config.maxDepth)) ∧
    ((∃ i, (cycle i).Open config template) →
      ((resolveFunctions Registry.standard config template parameters).run trail).1 =
        ⟨template, false, none⟩) := by
  constructor
  · intro i
    rw [resolve_yields]
    exact outcome_cycle circular mark reference config.maxDepth i
  · rintro ⟨i, reached⟩
    let scope := scopeOf config template parameters
    have exceeded : ∀ levels, outcome Registry.standard scope levels (cycle (i + 1)).lookup =
        .error (.depthExceeded config.maxDepth) :=
      fun levels => outcome_cycle circular mark reference levels (i + 1)
    have never : ∀ result, ¬Resolves Registry.standard scope (cycle (i + 1)).lookup result := by
      rintro result ⟨levels, found⟩
      rw [exceeded levels] at found
      cases found
    have unresolved := not_resolves_of_open Registry.standard_builtIn.ignoresDepth reached
      (circular i) never
    rw [resolveFunctions_run]
    change folded (outcome Registry.standard scope config.maxDepth template) template none = _
    cases resolved : outcome Registry.standard scope config.maxDepth template with
    | ok result => exact absurd ⟨config.maxDepth, resolved⟩ (unresolved result)
    | error error => rfl

/-- Three entries in two tables that look each other up in turn. -/
def circle : Fin 3 → Mapping.Place
  | 0 => ⟨"Images", "north", "small"⟩
  | 1 => ⟨"Images", "north", "large"⟩
  | 2 => ⟨"Zones", "a", "image"⟩

/-- A template with the tables, in which another section comes first and other entries are data. -/
def circularTemplate : Value := .map [
  ("Outputs", .map [("Image", .ofCall "Ref" (.string "Image"))]),
  ("Mappings", .map [
    ("Images", .map [("north", .map [("small", (circle 1).lookup), ("large", (circle 2).lookup)])]),
    ("Zones", .map [
      ("b", .list []),
      ("a", .map [("count", .int 3), ("image", (circle 0).lookup)])])])]

/-- The circle can be entered at its last place, and the template is given back as it was. -/
theorem resolveFunctions_cycle_circle :
    Mapping.IsCycle circularTemplate circle ∧ (circle 2).Open Config.standard circularTemplate ∧
      (resolve Registry.standard ⟨Config.standard, [("Image", .int 7)], circularTemplate⟩
        (circle 2).lookup).resultFrom {} = .error (.depthExceeded 512) ∧
      ((resolveFunctions Registry.standard Config.standard circularTemplate
        [("Image", .int 7)]).run {}).1 = ⟨circularTemplate, false, none⟩ := by
  have circular : Mapping.IsCycle circularTemplate circle := by
    intro i
    match i with
    | 0 | 1 | 2 => rfl
  have reached : (circle 2).Open Config.standard circularTemplate := by
    refine ⟨rfl, ?_⟩
    rintro tables ⟨⟩
    refine ⟨rfl, ?_⟩
    rintro rows ⟨⟩
    refine ⟨rfl, ?_⟩
    rintro row ⟨⟩
    rfl
  obtain ⟨exceeded, unchanged⟩ := resolveFunctions_cycle circular
    (show Config.standard.functionMark = "Fn::" from rfl) (by decide) [("Image", .int 7)] {}
  exact ⟨circular, reached, exceeded 2, unchanged ⟨2, reached⟩⟩

end Resolution

end CloudTemplate

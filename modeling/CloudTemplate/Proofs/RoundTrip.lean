import CloudTemplate.Proofs.Documents
import CloudTemplate.Proofs.Json.Reading
import CloudTemplate.Proofs.Shape
import CloudTemplate.Value.Text

/-!
# Maps as texts and back

A map can be turned into a text, and a child can be looked up in such a text by its key. Together
this gives the child of the map (`Resolver.resolve_getJsonValue_str`), with all that is in it in its
order. The text is the compact document of the map, which is read back as long as it has no binary
numbers and is not nested too deeply (`Value.read_json`). Reading settles repeated keys, of which
there are none (`Value.settled_toJson`), and a document without binary numbers has the value that it
was made of (`Value.ofJson_toJson`).

The limits are necessary. A binary number is written with its shortest digits, and an undefined one
becomes null; a text with more than 127 lists and maps inside each other is refused.
-/

set_option autoImplicit false

namespace CloudTemplate

namespace Value

/-! ## Values that have documents -/

mutual
/-- How many lists and maps stand inside each other. -/
def nesting : Value → Nat
  | .list items => nestingOfItems items + 1
  | .map entries => nestingOfEntries entries + 1
  | _ => 0

/-- The greatest nesting of an item. -/
def nestingOfItems : List Value → Nat
  | [] => 0
  | item :: items => max (nesting item) (nestingOfItems items)

/-- The greatest nesting of a child. -/
def nestingOfEntries : List (String × Value) → Nat
  | [] => 0
  | (_, child) :: entries => max (nesting child) (nestingOfEntries entries)
end

theorem nestingOfItems_le_iff (items : List Value) (bound : Nat) :
    nestingOfItems items ≤ bound ↔ ∀ item ∈ items, nesting item ≤ bound := by
  induction items with
  | nil => simp [nestingOfItems]
  | cons item items ih => rw [nestingOfItems, Nat.max_le, ih, List.forall_mem_cons]

theorem nestingOfEntries_le_iff (entries : List (String × Value)) (bound : Nat) :
    nestingOfEntries entries ≤ bound ↔ ∀ entry ∈ entries, nesting entry.2 ≤ bound := by
  induction entries with
  | nil => simp [nestingOfEntries]
  | cons entry entries ih => rw [nestingOfEntries, Nat.max_le, ih, List.forall_mem_cons]

/-- There are no binary numbers in the value. -/
def FloatFree (value : Value) : Prop :=
  ∀ x : Float, ¬(Value.float x).Within value

theorem FloatFree.within {inner outer : Value} (free : outer.FloatFree)
    (inside : inner.Within outer) : inner.FloatFree :=
  fun x here => free x (here.trans inside)

theorem floatFree_of_isScalar {value : Value} (scalar : value.IsScalar)
    (other : ∀ x, value ≠ .float x) : value.FloatFree := by
  intro x inside
  cases inside with
  | self => exact other x rfl
  | item => exact scalar.elim
  | child => exact scalar.elim

theorem floatFree_list_iff {items : List Value} :
    (Value.list items).FloatFree ↔ ∀ item ∈ items, item.FloatFree := by
  refine ⟨fun free item member => free.within (.item member (.self item)), fun all x inside => ?_⟩
  obtain same | ⟨item, member, deeper⟩ := within_list_iff.1 inside
  · cases same
  · exact all item member x deeper

theorem floatFree_map_iff {entries : List (String × Value)} :
    (Value.map entries).FloatFree ↔ ∀ entry ∈ entries, entry.2.FloatFree := by
  refine ⟨fun free entry member => free.within (.child member (.self entry.2)),
    fun all x inside => ?_⟩
  obtain same | ⟨entry, member, deeper⟩ := within_map_iff.1 inside
  · cases same
  · exact all entry member x deeper

/-! ## Documents of values -/

theorem toJsonItems_eq_map (items : List Value) : toJsonItems items = items.map toJson := by
  induction items with
  | nil => rfl
  | cons item items ih => rw [toJsonItems, ih, List.map_cons]

theorem toJsonEntries_eq_map (entries : List (String × Value)) :
    toJsonEntries entries = entries.map fun entry => (entry.1, toJson entry.2) := by
  induction entries with
  | nil => rfl
  | cons entry entries ih => rw [toJsonEntries, ih, List.map_cons]

theorem ofJsonItems_eq_map (items : List Json) : ofJsonItems items = items.map ofJson := by
  induction items with
  | nil => rfl
  | cons item items ih => rw [ofJsonItems, ih, List.map_cons]

theorem keys_toJsonEntries (entries : Entries Value) :
    Entries.keys (toJsonEntries entries) = entries.keys := by
  rw [toJsonEntries_eq_map, Entries.keys, List.map_map]
  rfl

theorem get?_toJsonEntries (entries : Entries Value) (key : String) :
    Entries.get? (toJsonEntries entries) key = (entries.get? key).map toJson := by
  rw [toJsonEntries_eq_map, Entries.get?_map]

/-- A value without binary numbers is the value of its document. -/
theorem ofJson_toJson {value : Value} (free : value.FloatFree) : ofJson value.toJson = value := by
  induction value using nested_induction with
  | scalar value scalar =>
    cases value with
    | list items => exact scalar.elim
    | map entries => exact scalar.elim
    | float x => exact absurd (.self _) (free x)
    | int n =>
      rw [toJson, ofJson, ofJsonNumber, if_pos ⟨n.minValue_le_toInt, n.toInt_le⟩, Int64.ofInt_toInt]
    | _ => rfl
  | list items ih =>
    have same : items.map (ofJson ∘ toJson) = items.map id :=
      List.map_congr_left fun item member =>
        ih item member (free.within (.item member (.self item)))
    rw [toJson, ofJson, toJsonItems_eq_map, ofJsonItems_eq_map, List.map_map, same, List.map_id]
  | map entries ih =>
    have same : entries.map (fun entry => (entry.1, ofJson entry.2.toJson)) = entries.map id := by
      refine List.map_congr_left fun entry member => ?_
      rw [ih entry member (free.within (.child member (.self entry.2)))]
      rfl
    rw [toJson, ofJson, toJsonEntries_eq_map, ofJsonEntries_eq_map, List.map_map]
    exact congrArg Value.map (same.trans (List.map_id entries))

theorem fits_toInt (n : Int64) : Json.Fits n.toInt := by
  have least := n.minValue_le_toInt
  have greatest := n.toInt_le
  have bounds : Int64.minValue.toInt = -(Nat.pow 2 63 : Nat) ∧
      Int64.maxValue.toInt < (Nat.pow 2 64 : Nat) := by decide
  exact ⟨bounds.1 ▸ least, Int.lt_of_le_of_lt greatest bounds.2⟩

/-- A document of a value can be read as deep as the value is nested. -/
theorem legible_toJson {value : Value} (free : value.FloatFree) {nesting : Nat}
    (enough : value.nesting ≤ nesting) : value.toJson.Legible nesting := by
  induction nesting using Nat.strongRecOn generalizing value with
  | ind nesting ih =>
    cases value with
    | null => cases nesting <;> trivial
    | bool b => cases nesting <;> trivial
    | string s => cases nesting <;> trivial
    | float x => exact absurd (.self _) (free x)
    | int n =>
      cases nesting <;> exact fits_toInt n
    | list items =>
      obtain ⟨nesting, rfl⟩ : ∃ less, nesting = less + 1 :=
        ⟨nesting - 1, by rw [Value.nesting] at enough; omega⟩
      rw [Value.nesting, Nat.add_le_add_iff_right, nestingOfItems_le_iff] at enough
      rw [toJson, toJsonItems_eq_map, Json.Legible]
      refine List.forall_mem_map.2 fun item member => ?_
      exact ih nesting (Nat.lt_succ_self _) (free.within (.item member (.self item)))
        (enough item member)
    | map entries =>
      obtain ⟨nesting, rfl⟩ : ∃ less, nesting = less + 1 :=
        ⟨nesting - 1, by rw [Value.nesting] at enough; omega⟩
      rw [Value.nesting, Nat.add_le_add_iff_right, nestingOfEntries_le_iff] at enough
      rw [toJson, toJsonEntries_eq_map, Json.Legible]
      refine List.forall_mem_map.2 fun entry member => ?_
      exact ih nesting (Nat.lt_succ_self _) (free.within (.child member (.self entry.2)))
        (enough entry member)

end Value

/-! ## Repeated keys -/

namespace Json

theorem settledItems_eq_map (items : List Json) : settledItems items = items.map settled := by
  induction items with
  | nil => rfl
  | cons item items ih => rw [settledItems, ih, List.map_cons]

/-- Settled entries with new keys are put at the end one after the other. -/
theorem settledEntries_eq_append {entries collected : Entries Json}
    (settled : ∀ entry ∈ entries, entry.2.settled = entry.2)
    (distinct : Entries.Distinct (collected ++ entries)) :
    settledEntries entries collected = collected ++ entries := by
  induction entries generalizing collected with
  | nil => rw [settledEntries, List.append_nil]
  | cons entry entries ih =>
    obtain ⟨key, document⟩ := entry
    obtain ⟨here, others⟩ := List.forall_mem_cons.1 settled
    have absent : key ∉ Entries.keys collected := by
      unfold Entries.Distinct Entries.keys at distinct
      rw [List.map_append, List.map_cons] at distinct
      exact fun known => (List.nodup_append.1 distinct).2.2 key known key List.mem_cons_self rfl
    have moved : collected ++ (key, document) :: entries =
        collected ++ [(key, document)] ++ entries := by
      rw [List.append_assoc, List.singleton_append]
    rw [moved] at distinct
    rw [settledEntries, here, Entries.insert_of_not_mem absent, ih others distinct, moved]

end Json

namespace Value

/-- Nothing in the document of a well-formed value is repeated. -/
theorem settled_toJson {value : Value} (distinct : value.DistinctKeys) :
    value.toJson.settled = value.toJson := by
  induction value using nested_induction with
  | scalar value scalar =>
    cases value with
    | list items => exact scalar.elim
    | map entries => exact scalar.elim
    | float x =>
      unfold toJson
      split <;> rfl
    | _ => rfl
  | list items ih =>
    rw [DistinctKeys, distinctKeysOfItems_iff] at distinct
    have same : items.map (Json.settled ∘ toJson) = items.map toJson :=
      List.map_congr_left fun item member => ih item member (distinct item member)
    rw [toJson, Json.settled, Json.settledItems_eq_map, toJsonItems_eq_map, List.map_map, same]
  | map entries ih =>
    obtain ⟨once, children⟩ := distinct
    rw [distinctKeysOfEntries_iff] at children
    have settled : ∀ entry ∈ toJsonEntries entries, entry.2.settled = entry.2 := by
      rw [toJsonEntries_eq_map]
      exact List.forall_mem_map.2 fun entry member => ih entry member (children entry member)
    have keys : Entries.Distinct ([] ++ toJsonEntries entries) := by
      rw [List.nil_append, Entries.Distinct, keys_toJsonEntries]
      exact once
    rw [toJson, Json.settled, Json.settledEntries_eq_append settled keys, List.nil_append]

/-- **The text of a value is read back** to its document. -/
theorem read_json {value : Value} (distinct : value.DistinctKeys) (free : value.FloatFree)
    (shallow : value.nesting ≤ Json.maxNesting) : Json.read value.json = .ok value.toJson := by
  rw [Json.read, json, Json.readRaw_compact (legible_toJson free shallow)]
  exact congrArg Except.ok (settled_toJson distinct)

end Value

/-! ## Functions -/

namespace Resolver

variable {registry : Registry} {scope : Scope}

/-- The text of a map without calls. -/
theorem outcome_str {entries : Entries Value} {key name : String} {levels : Nat}
    (data : (Value.map entries).containsCall scope.config = false)
    (enough : (Value.map entries).height ≤ levels) :
    (Strings.str ⟨key, name, .map entries, scope⟩).outcome (outcome registry scope levels) =
      .ok (.string (Value.map entries).json) := by
  have resolved : outcome registry scope levels (.map entries) = .ok (.map entries) :=
    outcome_of_containsCall_eq_false enough data
  change (outcome registry scope levels (.map entries) >>= fun value =>
    (Invocation.unlessCall ⟨key, name, .map entries, scope⟩ value
      (pure (.string value.text))).outcome (outcome registry scope levels)) = _
  rw [resolved]
  change (if (Value.map entries).containsCall scope.config = true then _ else _ :
    Program Value).outcome (outcome registry scope levels) = _
  rw [data]
  rfl

/-- What is at a key of a text that is read as an object. -/
theorem outcome_getJsonValue {answer : Value → Except Error Value} {first second : Value}
    {key name wanted text : String} (key_resolved : answer first = .ok (.string wanted))
    (text_resolved : answer second = .ok (.string text)) {entries : Entries Json}
    (read : Json.read text = .ok (.object entries)) {document : Json}
    (found : Entries.get? entries wanted = some document) :
    (Mapping.getJsonValue ⟨key, name, .list [first, second], scope⟩).outcome answer =
      .ok (Value.ofJson document) := by
  let call : Invocation := ⟨key, name, .list [first, second], scope⟩
  refine (call.outcome_known key_resolved rfl _).trans ?_
  refine (call.outcome_known text_resolved rfl _).trans ?_
  simp only [Invocation.expectText, pure_bind, read, found]
  rfl

/-- **Looking up a key in the text of a map gives the child of the map**: the same value, with the
same order of items and keys. The limit of nesting has to leave room for the two calls around the
map. -/
theorem resolve_getJsonValue_str (mark : scope.config.functionMark = "Fn::")
    (reference : scope.config.referenceKey ∉ ["Fn::GetJsonValue", "Fn::Str"])
    {entries : Entries Value} (distinct : (Value.map entries).DistinctKeys)
    (data : (Value.map entries).containsCall scope.config = false)
    (free : (Value.map entries).FloatFree) (shallow : (Value.map entries).nesting ≤ 127)
    (enough : (Value.map entries).height + 2 ≤ scope.config.maxDepth) {key : String}
    {value : Value} (found : entries.get? key = some value) (trail : Trail) :
    (resolve Registry.standard scope (.ofCall "Fn::GetJsonValue"
      (.list [.string key, .ofCall "Fn::Str" (.map entries)]))).resultFrom trail = .ok value := by
  have lookup : "Fn::GetJsonValue" ≠ scope.config.referenceKey :=
    fun same => reference (same ▸ List.mem_cons_self)
  have text : "Fn::Str" ≠ scope.config.referenceKey :=
    fun same => reference (same ▸ List.mem_cons_of_mem _ List.mem_cons_self)
  obtain ⟨levels, depth⟩ : ∃ levels, scope.config.maxDepth = levels + 1 + 1 :=
    ⟨scope.config.maxDepth - 2, by omega⟩
  have written : outcome Registry.standard scope (levels + 1) (.ofCall "Fn::Str" (.map entries)) =
      .ok (.string (Value.map entries).json) := by
    rw [outcome_function levels (Value.call?_ofCall mark text rfl _)
      (show Registry.standard.function? "Str" = some Strings.str from rfl)]
    exact outcome_str data (by omega)
  have read : Json.read (Value.map entries).json = .ok (.object (Value.toJsonEntries entries)) :=
    Value.read_json distinct free shallow
  have child : Entries.get? (Value.toJsonEntries entries) key = some value.toJson := by
    rw [Value.get?_toJsonEntries, found]
    rfl
  have wanted : outcome Registry.standard scope (levels + 1) (.string key) = .ok (.string key) :=
    outcome_of_isScalar (show (Value.string key).IsScalar from trivial) levels
  have inside : value.Within (.map entries) :=
    .child (Entries.mem_of_get?_eq_some found) (.self value)
  rw [resolve_yields Registry.standard scope _ trail, depth,
    outcome_function (levels + 1) (Value.call?_ofCall mark lookup rfl _)
      (show Registry.standard.function? "GetJsonValue" = some Mapping.getJsonValue from rfl),
    outcome_getJsonValue wanted written read child,
    Value.ofJson_toJson (free.within inside)]

/-- A map with characters that are escaped in each of the three ways, and with containers that have
nothing in them. -/
def delicateChild : Value := .map [
  ("quoted \\", .string "\x08\u0001\u001fé\n"), ("ends", .list []), ("", .map []),
  ("known", .list [.null, .bool true])]

/-- A map that is hard to write, with both ends of the integers. -/
def delicate : Entries Value := [
  ("ends", .list [.int Int64.minValue, .int Int64.maxValue]), ("text \"", delicateChild)]

theorem floatFree_delicate : (Value.map delicate).FloatFree := by
  have scalars : ∀ value ∈ [.int Int64.minValue, .int Int64.maxValue,
      .string "\x08\u0001\u001fé\n", .null, .bool true], Value.FloatFree value := by
    simp only [List.forall_mem_cons]
    exact ⟨Value.floatFree_of_isScalar trivial nofun, Value.floatFree_of_isScalar trivial nofun,
      Value.floatFree_of_isScalar trivial nofun, Value.floatFree_of_isScalar trivial nofun,
      Value.floatFree_of_isScalar trivial nofun, List.forall_mem_nil _⟩
  simpa [delicate, delicateChild, Value.floatFree_map_iff, Value.floatFree_list_iff,
    and_assoc] using scalars

/-- The inner map is found again, and six levels are enough for it. -/
theorem resolve_getJsonValue_str_delicate :
    let scope : Scope := ⟨{ Config.standard with maxDepth := 6 }, [], .null⟩
    (Value.map delicate).DistinctKeys ∧
      (Value.map delicate).containsCall scope.config = false ∧ (Value.map delicate).FloatFree ∧
      (Value.map delicate).nesting = 3 ∧ (Value.map delicate).height = 4 ∧
      delicate.get? "text \"" = some delicateChild ∧
      (resolve Registry.standard scope (.ofCall "Fn::GetJsonValue"
        (.list [.string "text \"", .ofCall "Fn::Str" (.map delicate)]))).resultFrom {} =
          .ok delicateChild := by
  intro scope
  have distinct : (Value.map delicate).DistinctKeys := by
    simp [delicate, delicateChild, Value.DistinctKeys, Value.distinctKeysOfItems_iff,
      Value.distinctKeysOfEntries_iff, Entries.Distinct, Entries.keys]
  have data : (Value.map delicate).containsCall scope.config = false := rfl
  have nested : (Value.map delicate).nesting = 3 := rfl
  have high : (Value.map delicate).height = 4 := rfl
  have found : delicate.get? "text \"" = some delicateChild := rfl
  have room : (Value.map delicate).height + 2 ≤ scope.config.maxDepth :=
    Nat.le_of_eq (congrArg (· + 2) high)
  exact ⟨distinct, data, floatFree_delicate, nested, high, found,
    resolve_getJsonValue_str rfl (by decide) distinct data floatFree_delicate (by omega) room found
      {}⟩

end Resolver

end CloudTemplate

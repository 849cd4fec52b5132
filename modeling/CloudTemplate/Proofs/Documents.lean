import CloudTemplate.Json.Reader
import CloudTemplate.Proofs.Within
import CloudTemplate.Value.Document

/-!
# Values of documents

A document that has been read has every key of an object once, because reading settles it, and so
its value is well formed (`Value.distinctKeys_of_read`). The induction goes over the document and,
for an object, over the entries that are still to be collected; what has been collected is well
formed all the way.
-/

set_option autoImplicit false

namespace CloudTemplate

namespace Value

theorem ofJsonEntries_eq_map (entries : Entries Json) :
    ofJsonEntries entries = entries.map fun entry => (entry.1, ofJson entry.2) := by
  induction entries with
  | nil => rfl
  | cons entry entries ih => rw [ofJsonEntries, ih, List.map_cons]

theorem get?_ofJsonEntries (entries : Entries Json) (key : String) :
    Entries.get? (ofJsonEntries entries) key = (entries.get? key).map ofJson := by
  rw [ofJsonEntries_eq_map, Entries.get?_map]

theorem ofJsonEntries_insert (entries : Entries Json) (key : String) (document : Json) :
    ofJsonEntries (entries.insert key document) =
      Entries.insert key (ofJson document) (ofJsonEntries entries) := by
  induction entries with
  | nil => rfl
  | cons entry entries ih =>
    obtain ⟨other, child⟩ := entry
    simp only [Entries.insert, ofJsonEntries]
    split
    · rfl
    · rw [ofJsonEntries, ih]

/-- A well-formed child leaves a map well formed. -/
theorem distinctKeys_insert {entries : Entries Value} (distinct : (Value.map entries).DistinctKeys)
    {child : Value} (also : child.DistinctKeys) (key : String) :
    (Value.map (entries.insert key child)).DistinctKeys := by
  obtain ⟨once, children⟩ := distinct
  rw [distinctKeysOfEntries_iff] at children
  refine ⟨once.insert key child, (distinctKeysOfEntries_iff _).2 fun entry member => ?_⟩
  obtain rfl | before := Entries.eq_or_mem_of_mem_insert member
  · exact also
  · exact children entry before

mutual

/-- The value of a settled document is well formed. -/
theorem distinctKeys_settled : ∀ document : Json, (ofJson document.settled).DistinctKeys
  | .null | .bool _ | .string _ => trivial
  | .number (.real _) => trivial
  | .number (.integer n) => by
    unfold Json.settled ofJson ofJsonNumber
    dsimp only
    split <;> trivial
  | .array items => by
    rw [Json.settled, ofJson, DistinctKeys]
    exact distinctKeys_settledItems items
  | .object entries => by
    rw [Json.settled, ofJson]
    exact distinctKeys_settledEntries entries [] ⟨List.nodup_nil, trivial⟩

theorem distinctKeys_settledItems :
    ∀ items : List Json, DistinctKeysOfItems (ofJsonItems (Json.settledItems items))
  | [] => trivial
  | item :: items => ⟨distinctKeys_settled item, distinctKeys_settledItems items⟩

theorem distinctKeys_settledEntries : ∀ entries collected : Entries Json,
    (Value.map (ofJsonEntries collected)).DistinctKeys →
      (Value.map (ofJsonEntries (Json.settledEntries entries collected))).DistinctKeys
  | [], _, distinct => distinct
  | (key, document) :: entries, collected, distinct => by
    rw [Json.settledEntries]
    refine distinctKeys_settledEntries entries _ ?_
    rw [ofJsonEntries_insert]
    exact distinctKeys_insert distinct (distinctKeys_settled document) key

end

/-- **The value of a document that was read is well formed.** -/
theorem distinctKeys_of_read {text : String} {document : Json}
    (read : Json.read text = .ok document) : (ofJson document).DistinctKeys := by
  unfold Json.read at read
  cases raw : Json.readRaw text with
  | error fault =>
    rw [raw] at read
    cases read
  | ok written =>
    rw [raw] at read
    cases read
    exact distinctKeys_settled written

/-- So is the value at a key. -/
theorem distinctKeys_of_read_object {text : String} {entries : Entries Json}
    (read : Json.read text = .ok (.object entries)) {key : String} {document : Json}
    (found : entries.get? key = some document) : (ofJson document).DistinctKeys := by
  have child : (ofJson (.object entries)).get? key = some (ofJson document) := by
    rw [ofJson]
    change Entries.get? (ofJsonEntries entries) key = _
    rw [get?_ofJsonEntries, found]
    rfl
  exact distinctKeys_of_within (within_of_get? child) (distinctKeys_of_read read)

end Value

end CloudTemplate

/-!
# Entries in the order of their insertion

A map keeps its keys in the order in which they were first inserted. It is a list of pairs
whose keys differ (`Entries.Distinct`). Inserting a known key changes its value and leaves its
place (`keys_insert`), so that looking a key up after an insertion gives the inserted value
for that key and the old one for every other (`lookup_insert`).
-/

set_option autoImplicit false

namespace CloudTemplate

/-- Keys with their values, in order of insertion. -/
abbrev Entries (α : Type) := List (String × α)

namespace Entries

variable {α : Type}

/-- The keys in their order. -/
def keys (entries : Entries α) : List String :=
  entries.map Prod.fst

/-- No key occurs twice. -/
def Distinct (entries : Entries α) : Prop :=
  (keys entries).Nodup

instance (entries : Entries α) : Decidable (Distinct entries) :=
  inferInstanceAs (Decidable (keys entries).Nodup)

/-- The value at a key. -/
def get? : Entries α → String → Option α
  | [], _ => none
  | (key, value) :: entries, wanted => if key = wanted then some value else get? entries wanted

/-- Whether there is a value at the key. -/
def contains (entries : Entries α) (key : String) : Bool :=
  (get? entries key).isSome

/-- Puts a value at its key. A new key goes to the end; a known one keeps its place. -/
def insert (key : String) (value : α) : Entries α → Entries α
  | [] => [(key, value)]
  | entry :: entries =>
    if entry.1 = key then (key, value) :: entries else entry :: insert key value entries

/-- Removes a key and keeps the order of the others. -/
def erase (entries : Entries α) (key : String) : Entries α :=
  entries.filter fun entry => entry.1 ≠ key

/-- Inserts all entries of the second map into the first. -/
def merge (entries more : Entries α) : Entries α :=
  more.foldl (fun merged entry => insert entry.1 entry.2 merged) entries

@[simp] theorem get?_nil (key : String) : get? ([] : Entries α) key = none := rfl

theorem get?_cons (entry : String × α) (entries : Entries α) (key : String) :
    get? (entry :: entries) key = if entry.1 = key then some entry.2 else get? entries key := rfl

/-- Of two entries with the same key, the first one counts. -/
theorem get?_append (entries more : Entries α) (key : String) :
    get? (entries ++ more) key = (get? entries key).or (get? more key) := by
  induction entries with
  | nil => rfl
  | cons entry entries ih =>
    rw [List.cons_append, get?_cons, get?_cons, ih]
    split <;> rfl

/-- An inserted key has the inserted value, every other key the value it had. -/
theorem get?_insert (entries : Entries α) (key wanted : String) (value : α) :
    get? (insert key value entries) wanted =
      if key = wanted then some value else get? entries wanted := by
  induction entries with
  | nil => simp [insert, get?]
  | cons entry entries ih =>
    unfold insert
    by_cases here : entry.1 = key
    · subst here
      by_cases same : entry.1 = wanted <;> simp [get?_cons, same]
    · by_cases same : key = wanted
      · subst same
        simp [get?_cons, here, ih]
      · simp [get?_cons, here, same, ih]

@[simp] theorem keys_cons (entry : String × α) (entries : Entries α) :
    keys (entry :: entries) = entry.1 :: keys entries := rfl

/-- Inserting a known key keeps the keys, inserting a new one puts it at the end. -/
theorem keys_insert (entries : Entries α) (key : String) (value : α) :
    keys (insert key value entries) =
      if key ∈ keys entries then keys entries else keys entries ++ [key] := by
  induction entries with
  | nil => simp [insert, keys]
  | cons entry entries ih =>
    unfold insert
    by_cases here : entry.1 = key
    · simp [here]
    · have elsewhere : key ≠ entry.1 := fun same => here same.symm
      by_cases known : key ∈ keys entries <;> simp [here, elsewhere, ih, known]

/-- A new key is put at the end. -/
theorem insert_of_not_mem {entries : Entries α} {key : String} (absent : key ∉ keys entries)
    (value : α) : insert key value entries = entries ++ [(key, value)] := by
  induction entries with
  | nil => rfl
  | cons entry entries ih =>
    have differs : entry.1 ≠ key := fun same => absent (same ▸ List.mem_cons_self)
    have elsewhere : key ∉ keys entries := fun later => absent (List.mem_cons_of_mem _ later)
    rw [insert, if_neg differs, ih elsewhere, List.cons_append]

/-- A key has a value exactly when it is one of the keys. -/
theorem get?_isSome_iff (entries : Entries α) (key : String) :
    (get? entries key).isSome ↔ key ∈ keys entries := by
  induction entries with
  | nil => simp [keys]
  | cons entry entries ih =>
    by_cases here : entry.1 = key
    · simp [get?_cons, keys, here]
    · simp only [get?_cons, here, if_false, ih, keys_cons, List.mem_cons]
      exact ⟨Or.inr, fun found => found.resolve_left fun same => here same.symm⟩

theorem get?_eq_none_iff (entries : Entries α) (key : String) :
    get? entries key = none ↔ key ∉ keys entries := by
  rw [← get?_isSome_iff, Option.not_isSome_iff_eq_none]

theorem mem_keys_of_get?_eq_some {entries : Entries α} {key : String} {value : α}
    (found : get? entries key = some value) : key ∈ keys entries :=
  (get?_isSome_iff entries key).1 (Option.isSome_of_eq_some found)

theorem exists_get?_eq_some_of_mem_keys {entries : Entries α} {key : String}
    (member : key ∈ keys entries) : ∃ value, get? entries key = some value :=
  Option.isSome_iff_exists.1 ((get?_isSome_iff entries key).2 member)

/-- A value at a key is in one of the entries with that key. -/
theorem mem_of_get?_eq_some {entries : Entries α} {key : String} {value : α}
    (found : get? entries key = some value) : (key, value) ∈ entries := by
  induction entries with
  | nil => cases found
  | cons entry entries ih =>
    rw [get?_cons] at found
    split at found
    · next same =>
      cases found
      exact same ▸ List.mem_cons_self
    · exact List.mem_cons_of_mem _ (ih found)

/-- Every entry has its value at its key, if no key occurs twice. -/
theorem get?_eq_some_of_mem {entries : Entries α} (distinct : Distinct entries) {key : String}
    {value : α} (member : (key, value) ∈ entries) : get? entries key = some value := by
  induction entries with
  | nil => cases member
  | cons entry entries ih =>
    obtain ⟨absent, rest⟩ : entry.1 ∉ keys entries ∧ Distinct entries := List.nodup_cons.1 distinct
    rw [get?_cons]
    rcases List.mem_cons.1 member with rfl | later
    · rw [if_pos rfl]
    · have differs : entry.1 ≠ key := fun same =>
        absent (List.mem_map.2 ⟨(key, value), later, same.symm⟩)
      rw [if_neg differs]
      exact ih rest later

theorem mem_iff_get?_eq_some {entries : Entries α} (distinct : Distinct entries) {key : String}
    {value : α} : (key, value) ∈ entries ↔ get? entries key = some value :=
  ⟨get?_eq_some_of_mem distinct, mem_of_get?_eq_some⟩

/-- Entries are the same but for their order exactly when they have the same values at all keys. -/
theorem perm_iff_get?_eq {entries others : Entries α} (distinct : Distinct entries)
    (other_distinct : Distinct others) :
    entries.Perm others ↔ ∀ key, get? entries key = get? others key := by
  constructor
  · intro same key
    refine Option.ext fun value => ?_
    rw [← mem_iff_get?_eq_some distinct, ← mem_iff_get?_eq_some other_distinct]
    exact same.mem_iff
  · intro same
    have pairs : ∀ {entries : Entries α}, Distinct entries → entries.Nodup :=
      List.Pairwise.of_map Prod.fst fun _ _ differ same => differ (same ▸ rfl)
    refine (List.perm_ext_iff_of_nodup (pairs distinct) (pairs other_distinct)).2 ?_
    rintro ⟨key, value⟩
    rw [mem_iff_get?_eq_some distinct, mem_iff_get?_eq_some other_distinct, same key]

/-- The keys whose values have a property. -/
theorem mem_keys_filter_iff {entries : Entries α} (distinct : Distinct entries) (p : α → Bool)
    (key : String) :
    key ∈ keys (entries.filter fun entry => p entry.2) ↔
      ∃ value, get? entries key = some value ∧ p value := by
  unfold keys
  rw [List.mem_map]
  constructor
  · rintro ⟨entry, member, rfl⟩
    obtain ⟨listed, holds⟩ := List.mem_filter.1 member
    exact ⟨entry.2, get?_eq_some_of_mem distinct listed, holds⟩
  · rintro ⟨value, found, holds⟩
    exact ⟨(key, value), List.mem_filter.2 ⟨mem_of_get?_eq_some found, holds⟩, rfl⟩

/-- Insertion keeps the keys different. -/
theorem Distinct.insert {entries : Entries α} (distinct : Distinct entries) (key : String)
    (value : α) : Distinct (insert key value entries) := by
  unfold Distinct
  rw [keys_insert]
  split
  · exact distinct
  · next absent =>
    refine List.nodup_append.2 ⟨distinct, by simp, ?_⟩
    intro known member other single same
    simp only [List.mem_singleton] at single
    exact absent (single ▸ same ▸ member)

/-- The value at a key of entries whose values have all been changed. -/
theorem get?_map {β : Type} (f : α → β) (entries : Entries α) (key : String) :
    get? (entries.map fun entry => (entry.1, f entry.2)) key = (get? entries key).map f := by
  induction entries with
  | nil => rfl
  | cons entry entries ih =>
    rw [List.map_cons, get?_cons, get?_cons, ih]
    split <;> rfl

theorem keys_perm {entries others : Entries α} (same : entries.Perm others) :
    (keys entries).Perm (keys others) :=
  same.map Prod.fst

theorem Distinct.perm {entries others : Entries α} (distinct : Distinct entries)
    (same : entries.Perm others) : Distinct others :=
  (keys_perm same).nodup_iff.1 distinct

/-- Entries that are the same but for their order have the same values at all keys. -/
theorem get?_eq_of_perm {entries others : Entries α} (distinct : Distinct entries)
    (same : entries.Perm others) (key : String) : get? entries key = get? others key :=
  (perm_iff_get?_eq distinct (distinct.perm same)).1 same key

theorem keys_filter_sublist (entries : Entries α) (p : String × α → Bool) :
    (keys (entries.filter p)).Sublist (keys entries) :=
  List.filter_sublist.map Prod.fst

theorem erase_cons (entry : String × α) (entries : Entries α) (key : String) :
    erase (entry :: entries) key =
      if entry.1 = key then erase entries key else entry :: erase entries key := by
  unfold erase
  rw [List.filter_cons]
  by_cases here : entry.1 = key <;> simp [here]

/-- Removing a key removes its value and no other. -/
theorem get?_erase (entries : Entries α) (key wanted : String) :
    get? (erase entries key) wanted = if wanted = key then none else get? entries wanted := by
  induction entries with
  | nil => simp [erase]
  | cons entry entries ih =>
    rw [erase_cons, get?_cons]
    by_cases here : entry.1 = key
    · rw [if_pos here, ih]
      by_cases same : wanted = key
      · rw [if_pos same, if_pos same]
      · have differs : entry.1 ≠ wanted := fun other => same (other.symm.trans here)
        rw [if_neg same, if_neg same, if_neg differs]
    · rw [if_neg here, get?_cons, ih]
      by_cases same : wanted = key
      · have differs : entry.1 ≠ wanted := fun other => here (other.trans same)
        rw [if_pos same, if_pos same, if_neg differs]
      · rw [if_neg same, if_neg same]

theorem erase_of_not_mem {entries : Entries α} {key : String} (absent : key ∉ keys entries) :
    erase entries key = entries := by
  refine List.filter_eq_self.2 fun entry member => decide_eq_true fun same => ?_
  exact absent (same ▸ List.mem_map_of_mem member)

theorem Distinct.erase {entries : Entries α} (distinct : Distinct entries) (key : String) :
    Distinct (erase entries key) :=
  distinct.sublist (keys_filter_sublist entries _)

/-- After an insertion there is the inserted entry, and there are entries that were there before. -/
theorem eq_or_mem_of_mem_insert {entries : Entries α} {key : String} {value : α}
    {entry : String × α} (member : entry ∈ insert key value entries) :
    entry = (key, value) ∨ entry ∈ entries := by
  induction entries with
  | nil => exact .inl (List.mem_singleton.1 member)
  | cons first entries ih =>
    unfold insert at member
    split at member
    · rcases List.mem_cons.1 member with here | later
      · exact .inl here
      · exact .inr (List.mem_cons_of_mem _ later)
    · rcases List.mem_cons.1 member with rfl | later
      · exact .inr List.mem_cons_self
      · exact (ih later).imp_right (List.mem_cons_of_mem _)

/-! ## Merging -/

/-- The entries of a merged map are entries of the two maps. -/
theorem mem_or_mem_of_mem_merge {entries more : Entries α} {entry : String × α}
    (member : entry ∈ merge entries more) : entry ∈ entries ∨ entry ∈ more := by
  induction more generalizing entries with
  | nil => exact .inl member
  | cons first more ih =>
    have rest : entry ∈ insert first.1 first.2 entries ∨ entry ∈ more := ih member
    rcases rest with here | later
    · rcases eq_or_mem_of_mem_insert here with rfl | before
      · exact .inr List.mem_cons_self
      · exact .inl before
    · exact .inr (List.mem_cons_of_mem _ later)

/-- A merged key has the value that was merged in, if there is one. -/
theorem get?_merge (entries : Entries α) {more : Entries α} (distinct : Distinct more)
    (key : String) : get? (merge entries more) key = (get? more key).or (get? entries key) := by
  induction more generalizing entries with
  | nil => rfl
  | cons entry more ih =>
    obtain ⟨absent, rest⟩ : entry.1 ∉ keys more ∧ Distinct more := List.nodup_cons.1 distinct
    have step : merge entries (entry :: more) = merge (insert entry.1 entry.2 entries) more := rfl
    rw [step, ih _ rest, get?_insert, get?_cons]
    by_cases here : entry.1 = key
    · rw [if_pos here, if_pos here, (get?_eq_none_iff more key).2 (here ▸ absent)]
      rfl
    · rw [if_neg here, if_neg here]

/-- Merging adds the keys that are new, in their order. -/
theorem keys_merge (entries : Entries α) {more : Entries α} (distinct : Distinct more) :
    keys (merge entries more) = keys entries ++ (keys more).filter (· ∉ keys entries) := by
  induction more generalizing entries with
  | nil => simp [merge, keys]
  | cons entry more ih =>
    obtain ⟨absent, rest⟩ : entry.1 ∉ keys more ∧ Distinct more := List.nodup_cons.1 distinct
    have step : merge entries (entry :: more) = merge (insert entry.1 entry.2 entries) more := rfl
    rw [step, ih _ rest, keys_insert, keys_cons, List.filter_cons]
    by_cases known : entry.1 ∈ keys entries
    · simp [known]
    · have others : (keys more).filter (· ∉ keys entries ++ [entry.1]) =
          (keys more).filter (· ∉ keys entries) := by
        refine List.filter_congr fun key member => ?_
        have differs : key ≠ entry.1 := fun same => absent (same ▸ member)
        simp [differs]
      rw [if_neg known, if_pos (decide_eq_true known), others, List.append_assoc,
        List.singleton_append]

/-- Merging keeps the keys different. -/
theorem Distinct.merge {entries : Entries α} (distinct : Distinct entries) (more : Entries α) :
    Distinct (merge entries more) := by
  induction more generalizing entries with
  | nil => exact distinct
  | cons entry more ih => exact ih (distinct.insert entry.1 entry.2)

end Entries

end CloudTemplate

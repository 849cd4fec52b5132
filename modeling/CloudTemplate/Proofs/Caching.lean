import CloudTemplate.Pattern.Compile

/-!
# What a cache comes to hold

A cache is only ever asked for texts, so what it holds is determined by the texts that it was asked
for (`PatternCache.after`). A request changes nothing, or it puts a pattern at the end that the
cache did not have (`patterns_get`). Hence no pattern is ever replaced or removed (`prefix_after`),
no text is kept twice (`distinct_after`), and a pattern that is not there at first is there in the
end exactly when its text was asked for and describes it (`get?_after`).
-/

set_option autoImplicit false

namespace CloudTemplate

namespace PatternCache

variable (cache : PatternCache)

/-- The cache after it was asked for texts. -/
def after (texts : List String) : PatternCache :=
  texts.foldl (fun cache text => (cache.get text).2) cache

@[simp] theorem after_nil : cache.after [] = cache := rfl

theorem after_cons (text : String) (texts : List String) :
    cache.after (text :: texts) = (cache.get text).2.after texts := rfl

theorem after_append (texts more : List String) :
    cache.after (texts ++ more) = (cache.after texts).after more :=
  List.foldl_append

/-- A request leaves the cache as it is, because the text is there already or describes no pattern,
or it adds the pattern of the text. -/
theorem patterns_get (text : String) :
    (cache.get text).2.patterns = cache.patterns ∧
        (∀ pattern, Pattern.compile text = .ok pattern →
          cache.patterns.get? text = some pattern) ∨
      ∃ pattern, Pattern.compile text = .ok pattern ∧ text ∉ cache.patterns.keys ∧
        (cache.get text).2.patterns = cache.patterns ++ [(text, pattern)] := by
  unfold get
  split
  · next known found =>
    refine .inl ⟨rfl, fun pattern compiled => ?_⟩
    have same := (cache.faithful text known found).symm.trans compiled
    exact found.trans (congrArg some (Except.ok.inj same))
  · next absent =>
    have new := (Entries.get?_eq_none_iff cache.patterns text).1 absent
    split
    · next pattern compiled =>
      exact .inr ⟨pattern, compiled, new, Entries.insert_of_not_mem new pattern⟩
    · next fault failed =>
      refine .inl ⟨rfl, fun pattern compiled => ?_⟩
      rw [failed] at compiled
      cases compiled

/-- After a request there is what was there before, and the pattern of the text if it has one. -/
theorem get?_get (text wanted : String) (pattern : Pattern) :
    (cache.get text).2.patterns.get? wanted = some pattern ↔
      cache.patterns.get? wanted = some pattern ∨
        wanted = text ∧ Pattern.compile wanted = .ok pattern := by
  rcases cache.patterns_get text with ⟨same, known⟩ | ⟨found, compiled, new, added⟩
  · rw [same]
    refine ⟨.inl, ?_⟩
    rintro (before | ⟨rfl, compiled⟩)
    · exact before
    · exact known pattern compiled
  · rw [added, ← Entries.insert_of_not_mem new found, Entries.get?_insert]
    by_cases here : text = wanted
    · subst here
      rw [if_pos rfl, (Entries.get?_eq_none_iff cache.patterns text).2 new, compiled]
      simp
    · rw [if_neg here]
      exact ⟨.inl, fun either => either.resolve_right fun asked => here asked.1.symm⟩

theorem prefix_get (text : String) : cache.patterns <+: (cache.get text).2.patterns := by
  rcases cache.patterns_get text with ⟨same, -⟩ | ⟨_, -, -, added⟩
  · exact same ▸ List.prefix_rfl
  · exact added ▸ List.prefix_append _ _

theorem distinct_get (distinct : cache.patterns.Distinct) (text : String) :
    (cache.get text).2.patterns.Distinct := by
  rcases cache.patterns_get text with ⟨same, -⟩ | ⟨pattern, -, new, added⟩
  · rw [same]
    exact distinct
  · rw [added, ← Entries.insert_of_not_mem new pattern]
    exact distinct.insert text pattern

/-! ## Many requests -/

/-- **What a cache holds** are the patterns that it held at first, and those of the texts that it
was asked for. -/
theorem get?_after (texts : List String) (wanted : String) (pattern : Pattern) :
    (cache.after texts).patterns.get? wanted = some pattern ↔
      cache.patterns.get? wanted = some pattern ∨
        wanted ∈ texts ∧ Pattern.compile wanted = .ok pattern := by
  induction texts generalizing cache with
  | nil => simp
  | cons text texts ih =>
    rw [after_cons, ih, get?_get, List.mem_cons, or_and_right, or_assoc]

/-- Requests replace and remove nothing. -/
theorem prefix_after (texts : List String) :
    cache.patterns <+: (cache.after texts).patterns := by
  induction texts generalizing cache with
  | nil => exact List.prefix_rfl
  | cons text texts ih => exact (cache.prefix_get text).trans (ih _)

theorem distinct_after (distinct : cache.patterns.Distinct) (texts : List String) :
    (cache.after texts).patterns.Distinct := by
  induction texts generalizing cache with
  | nil => exact distinct
  | cons text texts ih => exact ih _ (cache.distinct_get distinct text)

end PatternCache

end CloudTemplate

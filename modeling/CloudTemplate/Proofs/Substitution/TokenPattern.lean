import CloudTemplate.Pattern.Compile
import CloudTemplate.Proofs.LeftmostFirst
import CloudTemplate.Proofs.Substitution.Cutting

/-!
# The pattern of tokens

What the pattern of tokens finds in a text, when it is matched from the left and the preferred match
counts. The text of the pattern compiles (`compile_tokenPattern`). A body is matched up to the first
closing brace (`ways_bodyPattern`), and an exclamation mark before it is taken as a mark as long as
characters of a name are left: in `${!}` it belongs to the name. So the preferred match is the token
where one starts (`ways_tokens_written`), and there is none elsewhere (`ways_tokens_eq_nil`). In the
end the pattern finds the pieces that the text is cut into (`Cuts.found`).
-/

set_option autoImplicit false

namespace CloudTemplate.Substitution

open Pattern Unicode

/-! ## Compilation -/

/-- The characters other than closing braces. -/
def unclosing : CharSet :=
  CharSet.complement (.single '\x7d')

/-- The pattern of a body and the brace that closes it. -/
def bodyPattern : Pattern :=
  .sequence (.group true (.repeated (.chars unclosing) 1 none)) (.chars (.single '\x7d'))

/-- The pattern of an exclamation mark, which may be missing. -/
def markPattern : Pattern :=
  .group true (.repeated (.chars (.single '!')) 0 (some 1))

/-- The pattern of tokens. -/
def tokens : Pattern :=
  .sequence (.chars (.single '$'))
    (.sequence (.chars (.single '\x7b')) (.sequence markPattern bodyPattern))

theorem ofSet_single (c : Char) : Plan.ofSet (.single c) = .text [c.toNat] := by
  have sorted := @CharSet.normalized_of_pairwise (.single c) (List.pairwise_singleton _ _)
  rw [Plan.ofSet, sorted]
  exact if_pos rfl

theorem ofSet_unclosing : Plan.ofSet unclosing = .chars unclosing := by
  rw [Plan.ofSet, CharSet.normalized_of_pairwise (by decide)]
  rfl

theorem plan_tokens :
    tokens.plan = .sequence [.text ['$'.toNat, '\x7b'.toNat],
      .capture (.repeated (.text ['!'.toNat]) 0 (some 1)),
      .capture (.repeated (.chars unclosing) 1 none), .text ['\x7d'.toNat]] := by
  simp only [plan, alternatives, tokens, markPattern, bodyPattern, ofSet_single, ofSet_unclosing]
  rfl

theorem isTooLarge_tokens : tokens.isTooLarge = false := by
  rw [isTooLarge, plan_tokens]
  decide +kernel

theorem compile_tokenPattern : compile tokenPattern = .ok tokens := by
  have read : Pattern.read tokenPattern = .ok tokens := rfl
  rw [compile, read]
  change (if tokens.isTooLarge = true then _ else _) = _
  rw [isTooLarge_tokens]
  rfl

/-! ## Ways -/

theorem contains_single_of_ne {c d : Char} (other : d ≠ c) :
    (CharSet.single c).contains d.toNat = false := by
  rw [CharSet.contains_single]
  exact beq_eq_false_iff_ne.2 other

theorem contains_single_self (c : Char) : (CharSet.single c).contains c.toNat = true := by
  rw [CharSet.contains_single, beq_self_eq_true]

theorem contains_unclosing (c : Char) : unclosing.contains c.toNat = (c != '\x7d') := by
  rw [unclosing, CharSet.contains_complement, CharSet.contains_all, CharSet.contains_single,
    Bool.true_and]
  rfl

/-- Where no body stands, none is matched. -/
theorem ways_bodyPattern_eq_nil {text : List Char} (closing : Closes text)
    (before : Option Char) : ways bodyPattern ⟨before, text⟩ = [] := by
  have outside : ∀ c ∈ text.head?, unclosing.contains c.toNat = false := by
    intro c first
    rw [contains_unclosing, closing c first]
    rfl
  rw [bodyPattern, ways, ways, ways, repeatedly, ways_chars_eq_nil outside]
  rfl

/-- A body is matched up to the first closing brace, in one way at most. -/
theorem ways_bodyPattern {body rest : List Char} (proper : IsBody body)
    (closing : Closes rest) (before : Option Char) :
    ∃ last, ways bodyPattern ⟨before, body ++ rest⟩ =
      (ways (.chars (.single '\x7d')) ⟨last, rest⟩).map (Way.precededBy [body]) := by
  obtain ⟨c, more, rfl⟩ := List.exists_cons_of_ne_nil proper.nonempty
  have inside : ∀ d ∈ c :: more, unclosing.contains d.toNat = true := by
    intro d member
    rw [contains_unclosing]
    exact bne_iff_ne.2 fun same => proper.unclosed (same ▸ member)
  have outside : ∀ d ∈ rest.head?, unclosing.contains d.toNat = false := by
    intro d first
    rw [contains_unclosing, closing d first]
    rfl
  refine ⟨more.getLast?.or (some c), ?_⟩
  rw [bodyPattern, ways, ways, ways, repeatedly, List.cons_append,
    ways_chars_of_mem (inside c List.mem_cons_self), goOn_stay, goOn, List.flatMap_map]
  have fails : ∀ (before : Option Char) (d : Char) (text : List Char),
      unclosing.contains d.toNat = true →
      ways (.chars (.single '\x7d')) ⟨before, d :: text⟩ = [] := by
    intro before d text member
    rw [contains_unclosing] at member
    refine ways_chars_eq_nil fun e first => ?_
    cases first
    exact contains_single_of_ne (bne_iff_ne.1 member)
  refine (flatMap_repeatedly (fun d member => inside d (List.mem_cons_of_mem c member)) outside
    ?_ ?_ (some c)).trans ?_
  · intro before d text member
    dsimp only [Way.stay, Way.precededBy]
    rw [fails before d text member]
    rfl
  · simp only [Option.getD_none, List.length_cons, List.length_append]
    omega
  · have passed : (c :: (more ++ rest)).take ((c :: (more ++ rest)).length - rest.length) =
        c :: more := by
      rw [← List.cons_append, List.length_append, Nat.add_sub_cancel, List.take_left]
    dsimp only [Way.stay, Way.precededBy, Way.passed]
    rw [passed]
    rfl

theorem ways_bodyPattern_closed {body : List Char} (proper : IsBody body) (rest : List Char)
    (before : Option Char) :
    ways bodyPattern ⟨before, body ++ '\x7d' :: rest⟩ = [⟨[body], ⟨some '\x7d', rest⟩⟩] := by
  obtain ⟨last, matched⟩ := ways_bodyPattern proper (closes_cons rest) before
  rw [matched, ways_chars_of_mem (contains_single_self _)]
  rfl

theorem ways_bodyPattern_unclosed {text : List Char} (unclosed : '\x7d' ∉ text)
    (before : Option Char) : ways bodyPattern ⟨before, text⟩ = [] := by
  by_cases empty : text = []
  · subst empty
    exact ways_bodyPattern_eq_nil closes_nil before
  · obtain ⟨last, matched⟩ := ways_bodyPattern ⟨empty, unclosed⟩ closes_nil before
    rw [List.append_nil] at matched
    rw [matched]
    rfl

/-- An exclamation mark is taken rather than not. -/
theorem ways_markPattern (before : Option Char) (text : List Char) :
    ways markPattern ⟨before, '!' :: text⟩ =
      [⟨[['!']], ⟨some '!', text⟩⟩, ⟨[[]], ⟨before, '!' :: text⟩⟩] := by
  have shorter : text.length < ('!' :: text).length := Nat.lt_succ_self _
  rw [markPattern, ways, ways, Option.getD_some, repeatedly,
    ways_chars_of_mem (contains_single_self '!'), goOn_stay, if_pos shorter]
  simp [repeatedly, Way.stay, Way.precededBy, Way.passed]

theorem ways_markPattern_of_ne {text : List Char} (unmarked : ∀ c ∈ text.head?, c ≠ '!')
    (before : Option Char) : ways markPattern ⟨before, text⟩ = [⟨[[]], ⟨before, text⟩⟩] := by
  have outside : ∀ c ∈ text.head?, (CharSet.single '!').contains c.toNat = false :=
    fun c first => contains_single_of_ne (unmarked c first)
  rw [markPattern, ways, ways, Option.getD_some, repeatedly, ways_chars_eq_nil outside]
  simp [goOn, Way.stay, Way.precededBy, Way.passed]

/-- The ways of a marked body start with those after the mark, if there is one. -/
theorem ways_marked (before : Option Char) (text : List Char) :
    ways (.sequence markPattern bodyPattern) ⟨before, '!' :: text⟩ =
      (ways bodyPattern ⟨some '!', text⟩).map (Way.precededBy [['!']]) ++
        (ways bodyPattern ⟨before, '!' :: text⟩).map (Way.precededBy [[]]) := by
  rw [ways, ways_markPattern, goOn, List.flatMap_cons, List.flatMap_singleton]

theorem ways_unmarked {text : List Char} (unmarked : ∀ c ∈ text.head?, c ≠ '!')
    (before : Option Char) :
    ways (.sequence markPattern bodyPattern) ⟨before, text⟩ =
      (ways bodyPattern ⟨before, text⟩).map (Way.precededBy [[]]) := by
  rw [ways, ways_markPattern_of_ne unmarked, goOn, List.flatMap_singleton]

/-- The pattern of tokens matches a dollar sign, an opening brace and a marked body. -/
theorem ways_tokens (before : Option Char) (text : List Char) :
    ways tokens ⟨before, '$' :: '\x7b' :: text⟩ =
      ways (.sequence markPattern bodyPattern) ⟨some '\x7b', text⟩ := by
  rw [tokens, ways_sequence_chars (contains_single_self '$'),
    ways_sequence_chars (contains_single_self '\x7b')]

/-! ## Tokens -/

/-- The piece that something found stands for. -/
inductive Reads : Char ⊕ List (List Char) → Piece → Prop where
  | plain (c : Char) : Reads (.inl c) (.plain c)
  | escape (name : List Char) : Reads (.inr [['!'], name]) (.escape name)
  | name {mark : List Char} (unmarked : mark ≠ ['!']) (name : List Char) :
      Reads (.inr [mark, name]) (.name name)

/-- Where a token starts, the preferred match is the token. -/
theorem ways_tokens_written {body : List Char} (proper : IsBody body) {piece : Piece}
    (stands : Stands body piece) (rest : List Char) (before : Option Char) :
    ∃ captured others, ways tokens ⟨before, written body ++ rest⟩ =
      ⟨captured, ⟨some '\x7d', rest⟩⟩ :: others ∧ Reads (.inr captured) piece := by
  rw [written_append, ways_tokens]
  cases stands with
  | @escape name nonempty =>
    have inner : IsBody name :=
      ⟨nonempty, fun member => proper.unclosed (List.mem_cons_of_mem _ member)⟩
    rw [List.cons_append, ways_marked, ways_bodyPattern_closed inner]
    exact ⟨[['!'], name], _, rfl, .escape name⟩
  | name no_escape =>
    have closed := ways_bodyPattern_closed proper rest
    by_cases mark : ∃ name, body = '!' :: name
    · obtain ⟨name, rfl⟩ := mark
      -- the mark would leave no name, so it belongs to the name
      have empty : name = [] := Classical.not_not.1 fun nonempty => no_escape name nonempty rfl
      subst empty
      rw [List.cons_append, ways_marked, List.nil_append,
        ways_bodyPattern_eq_nil (closes_cons rest)]
      exact ⟨[[], ['!']], [], congrArg (List.map _) (closed _), .name (by decide) _⟩
    · have unmarked : ∀ c ∈ (body ++ '\x7d' :: rest).head?, c ≠ '!' := by
        obtain ⟨d, more, rfl⟩ := List.exists_cons_of_ne_nil proper.nonempty
        rintro _ first rfl
        cases first
        exact mark ⟨more, rfl⟩
      rw [ways_unmarked unmarked, closed]
      exact ⟨[[], body], [], rfl, .name (by decide) _⟩

/-- A token must start with a dollar sign and an opening brace. -/
theorem ways_tokens_of_not_opening {text : List Char}
    (unopened : ∀ inner, text ≠ '$' :: '\x7b' :: inner) (before : Option Char) :
    ways tokens ⟨before, text⟩ = [] := by
  by_cases dollar : ∃ rest, text = '$' :: rest
  · obtain ⟨rest, rfl⟩ := dollar
    rw [tokens, ways_sequence_chars (contains_single_self '$')]
    refine ways_sequence_chars_eq_nil (fun c first => contains_single_of_ne ?_) _
    rintro rfl
    obtain ⟨inner, rfl⟩ := List.head?_eq_some_iff.1 first
    exact unopened inner rfl
  · refine ways_sequence_chars_eq_nil (fun c first => contains_single_of_ne ?_) _
    rintro rfl
    exact dollar (List.head?_eq_some_iff.1 first)

theorem ways_marked_unclosed {text : List Char} (unclosed : '\x7d' ∉ text)
    (before : Option Char) :
    ways (.sequence markPattern bodyPattern) ⟨before, text⟩ = [] := by
  by_cases mark : ∃ name, text = '!' :: name
  · obtain ⟨name, rfl⟩ := mark
    have inner : '\x7d' ∉ name := fun member => unclosed (List.mem_cons_of_mem _ member)
    rw [ways_marked, ways_bodyPattern_unclosed inner, ways_bodyPattern_unclosed unclosed]
    rfl
  · have unmarked : ∀ c ∈ text.head?, c ≠ '!' := by
      rintro _ first rfl
      exact mark (List.head?_eq_some_iff.1 first)
    rw [ways_unmarked unmarked, ways_bodyPattern_unclosed unclosed]
    rfl

/-- Where no token starts, nothing is matched. -/
theorem ways_tokens_eq_nil {text : List Char}
    (no_token : ∀ body rest, IsBody body → text ≠ written body ++ rest) (before : Option Char) :
    ways tokens ⟨before, text⟩ = [] := by
  by_cases opening : ∃ inner, text = '$' :: '\x7b' :: inner
  · obtain ⟨inner, rfl⟩ := opening
    obtain ⟨body, rest, rfl, unclosed, closing⟩ := exists_unclosed inner
    rw [ways_tokens]
    cases rest with
    | nil =>
      rw [List.append_nil]
      exact ways_marked_unclosed unclosed _
    | cons c rest =>
      -- the brace closes nothing, so no body stands before it
      obtain rfl := closing c rfl
      have empty : body = [] := Classical.not_not.1 fun nonempty =>
        no_token body rest ⟨nonempty, unclosed⟩ (written_append body rest).symm
      subst empty
      have unmarked : ∀ c ∈ ('\x7d' :: rest).head?, c ≠ '!' := by
        rintro _ first rfl
        cases first
      rw [List.nil_append, ways_unmarked unmarked, ways_bodyPattern_eq_nil (closes_cons rest)]
      rfl
  · exact ways_tokens_of_not_opening (fun inner same => opening ⟨inner, same⟩) before

/-- **The pattern of tokens finds the pieces of a text.** -/
theorem Cuts.found {text : List Char} {pieces : List Piece} (cuts : Cuts text pieces)
    (before : Option Char) :
    ∃ found, tokens.Found ⟨before, text⟩ found ∧ List.Forall₂ Reads found pieces := by
  induction cuts generalizing before with
  | nil => exact ⟨[], .nil, .nil⟩
  | @token body rest piece pieces proper stands _ ih =>
    obtain ⟨captured, others, first, reads⟩ := ways_tokens_written proper stands rest before
    obtain ⟨found, further, alike⟩ := ih (some '\x7d')
    have longer := length_written_append body rest
    exact ⟨_, .hit first (by dsimp only; omega) further, .cons reads alike⟩
  | @plain c text pieces no_token _ ih =>
    obtain ⟨found, further, alike⟩ := ih (some c)
    exact ⟨_, .miss (ways_tokens_eq_nil no_token before) further, .cons (.plain c) alike⟩

end CloudTemplate.Substitution

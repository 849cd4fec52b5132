import Mathlib.Data.List.TakeDrop
import CloudTemplate.Function.Substitution

/-!
# Cutting a text with tokens

The rule by which a text with tokens is cut, apart from the function that does it. Going from the
left, a text has a token where `${`, a body that is not empty and has no closing brace, and a
closing brace stand, and a plain character where none starts (`Cuts`). A body stands for an escape
when it is an exclamation mark and a name, and for a name otherwise (`Stands`).

Every text can be cut in exactly one way, and its pieces are what it is cut into (`cuts_iff`).
-/

set_option autoImplicit false

namespace CloudTemplate.Substitution

/-- What stands between the braces of a token. -/
structure IsBody (body : List Char) : Prop where
  nonempty : body ≠ []
  unclosed : '\x7d' ∉ body

/-- A body is an escape when an exclamation mark and a name stand in it, and a name otherwise. -/
inductive Stands : List Char → Piece → Prop where
  | escape {name : List Char} (nonempty : name ≠ []) : Stands ('!' :: name) (.escape name)
  | name {body : List Char} (no_escape : ∀ name, name ≠ [] → body ≠ '!' :: name) :
      Stands body (.name body)

/-- Cutting a text from the left: a token where one starts, and a character where none does. -/
inductive Cuts : List Char → List Piece → Prop where
  | nil : Cuts [] []
  | token {body rest : List Char} {piece : Piece} {pieces : List Piece} (proper : IsBody body)
      (stands : Stands body piece) (further : Cuts rest pieces) :
      Cuts (written body ++ rest) (piece :: pieces)
  | plain {c : Char} {text : List Char} {pieces : List Piece}
      (no_token : ∀ body rest, IsBody body → c :: text ≠ written body ++ rest)
      (further : Cuts text pieces) : Cuts (c :: text) (.plain c :: pieces)

theorem stands_iff {body : List Char} {piece : Piece} :
    Stands body piece ↔ pieceOfBody body = piece := by
  constructor
  · intro stands
    cases stands with
    | @escape name nonempty =>
      cases name with
      | nil => exact absurd rfl nonempty
      | cons c name => rfl
    | name no_escape =>
      unfold pieceOfBody
      split
      · next c name => exact absurd rfl (no_escape (c :: name) (List.cons_ne_nil c name))
      · rfl
  · rintro rfl
    unfold pieceOfBody
    split
    · next c name => exact .escape (List.cons_ne_nil c name)
    · next no_escape =>
      refine .name fun name nonempty same => ?_
      cases name with
      | nil => exact nonempty rfl
      | cons c name => exact no_escape c name same

theorem written_append (body rest : List Char) :
    written body ++ rest = '$' :: '\x7b' :: (body ++ '\x7d' :: rest) := by
  simp [written]

/-- Nothing stands before a closing brace, or at the end of the text. -/
def Closes (text : List Char) : Prop :=
  ∀ c ∈ text.head?, c = '\x7d'

theorem closes_nil : Closes [] :=
  fun _ first => by cases first

theorem closes_cons (rest : List Char) : Closes ('\x7d' :: rest) :=
  fun _ first => (Option.some.inj first).symm

/-- A text up to its first closing brace. -/
theorem span_append {body rest : List Char} (unclosed : '\x7d' ∉ body) (closing : Closes rest) :
    (body ++ rest).span (· ≠ '\x7d') = (body, rest) := by
  have open_body : ∀ c ∈ body, decide (c ≠ '\x7d') = true :=
    fun c member => decide_eq_true fun same => unclosed (same ▸ member)
  have stops : ∀ c ∈ rest.head?, decide (c ≠ '\x7d') = false :=
    fun c first => decide_eq_false (not_not_intro (closing c first))
  rw [List.span_eq_takeWhile_dropWhile, Text.takeWhile_append_of_stops open_body stops,
    Text.dropWhile_append_of_stops open_body stops]

/-- Every text is a part without closing braces and a rest that starts with one, if there is a
rest. -/
theorem exists_unclosed (text : List Char) :
    ∃ body rest, text = body ++ rest ∧ '\x7d' ∉ body ∧ Closes rest := by
  induction text with
  | nil => exact ⟨[], [], rfl, List.not_mem_nil, closes_nil⟩
  | cons c text ih =>
    by_cases closing : c = '\x7d'
    · exact ⟨[], c :: text, rfl, List.not_mem_nil, closing ▸ closes_cons text⟩
    · obtain ⟨body, rest, rfl, unclosed, closed⟩ := ih
      exact ⟨c :: body, rest, rfl, List.not_mem_cons_of_ne_of_not_mem (Ne.symm closing) unclosed,
        closed⟩

theorem token?_written {body : List Char} (proper : IsBody body) (rest : List Char) :
    token? (written body ++ rest) = some (body, rest) := by
  rw [written_append, token?, span_append proper.unclosed (closes_cons rest)]
  split
  · next same => exact absurd (congrArg Prod.fst same) proper.nonempty
  · next same => cases same
  · next same =>
    cases same
    rfl

/-- A token is found where a written body starts, and nowhere else. -/
theorem exists_body_of_token? {text body rest : List Char}
    (found : token? text = some (body, rest)) : IsBody body ∧ text = written body ++ rest := by
  unfold token? at found
  split at found
  · next text =>
    obtain ⟨inside, outside, rfl, unclosed, closing⟩ := exists_unclosed text
    rw [span_append unclosed closing] at found
    split at found
    · cases found
    · cases found
    · next nonempty same =>
      cases same
      cases found
      obtain rfl := closing _ rfl
      exact ⟨⟨nonempty, unclosed⟩, (written_append _ _).symm⟩
  · cases found

theorem token?_eq_none {text : List Char}
    (no_token : ∀ body rest, IsBody body → text ≠ written body ++ rest) : token? text = none := by
  cases found : token? text with
  | none => rfl
  | some token =>
    obtain ⟨proper, same⟩ := exists_body_of_token? found
    exact absurd same (no_token _ _ proper)

theorem length_written_append (body rest : List Char) :
    rest.length + 3 ≤ (written body ++ rest).length := by
  rw [written_append, List.length_cons, List.length_cons, List.length_append, List.length_cons]
  omega

/-- A text can be cut in only one way. -/
theorem Cuts.cut_eq {text : List Char} {pieces : List Piece} (cuts : Cuts text pieces)
    {limit : Nat} (enough : text.length ≤ limit) : cut limit text = pieces := by
  induction cuts generalizing limit with
  | nil => cases limit <;> rfl
  | @token body rest piece pieces proper stands _ ih =>
    have longer := length_written_append body rest
    cases limit with
    | zero => omega
    | succ limit =>
      have shorter : rest.length ≤ limit := by omega
      have found := token?_written proper rest
      rw [written_append] at found ⊢
      rw [cut, found]
      exact congrArg₂ List.cons (stands_iff.1 stands) (ih shorter)
  | @plain c text pieces no_token _ ih =>
    cases limit with
    | zero => exact absurd enough (Nat.not_succ_le_zero _)
    | succ limit =>
      rw [cut, token?_eq_none no_token]
      exact congrArg (_ :: ·) (ih (Nat.le_of_succ_le_succ enough))

/-- Every text is cut. -/
theorem cuts_cut {limit : Nat} {text : List Char} (enough : text.length ≤ limit) :
    Cuts text (cut limit text) := by
  induction limit generalizing text with
  | zero =>
    rw [List.length_eq_zero_iff.1 (Nat.le_zero.1 enough)]
    exact .nil
  | succ limit ih =>
    cases text with
    | nil => exact .nil
    | cons c text =>
      rw [cut]
      cases found : token? (c :: text) with
      | none =>
        refine .plain (fun body rest proper same => ?_) (ih (Nat.le_of_succ_le_succ enough))
        rw [same, token?_written proper] at found
        cases found
      | some token =>
        obtain ⟨body, rest⟩ := token
        obtain ⟨proper, same⟩ := exists_body_of_token? found
        have longer := length_written_append body rest
        rw [same] at enough ⊢
        exact .token proper (stands_iff.2 rfl) (ih (by omega))

/-- **The pieces of a text are those that it is cut into from the left.** -/
theorem cuts_iff {text : List Char} {pieces : List Piece} :
    Cuts text pieces ↔ Substitution.pieces text = pieces :=
  ⟨fun cuts => cuts.cut_eq (Nat.le_refl _), fun same => same ▸ cuts_cut (Nat.le_refl _)⟩

end CloudTemplate.Substitution

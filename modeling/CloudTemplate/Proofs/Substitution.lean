import CloudTemplate.Proofs.InStep
import CloudTemplate.Proofs.Substitution.TokenPattern

/-!
# Substitution

A substitution is all or nothing: `Substitution.sub_exact`. Its text is cut in the only way in
which it can be cut, and this is how the pattern of tokens goes through it. If one of the names has
no value before run time (`Substitution.Binds`), the call is kept; otherwise the result is the text
with the values in the place of the names. What is put in is not read again, for the pieces are
those of the text as it was written.
-/

set_option autoImplicit false

namespace CloudTemplate.Substitution

/-- A name has a value before run time: it is the name neither of a pseudo parameter nor of an
attribute, and a variable, or else a parameter, binds it to a value that is no call. -/
structure Binds (call : Invocation) (inline : Entries Value) (name : List Char)
    (value : Value) : Prop where
  no_pseudo : ¬call.scope.config.pseudoMark.toList <+: name
  no_attribute : '.' ∉ name
  bound : (Entries.get? inline (String.ofList name)).or
    (call.scope.parameters.get? (String.ofList name)) = some value
  known : call.isCall value = false

/-- The text of a piece, given the values of names. -/
def Piece.filled (value : List Char → Value) : Piece → List Char
  | .plain c => [c]
  | .escape body => written body
  | .name body => (value body).text.toList

/-- The variables of a substitution are these entries. -/
def Variables (call : Invocation) (answer : Value → Except Error Value) :
    Option Value → Entries Value → Prop
  | none, inline => inline = []
  | some written, inline => answer written = .ok (.map inline) ∧ call.isCall (.map inline) = false

section

variable {call : Invocation} {inline : Entries Value}

theorem isStatic_iff {config : Config} {name : List Char} :
    isStatic config name = true ↔ ¬config.pseudoMark.toList <+: name ∧ '.' ∉ name := by
  have pseudo : (Text.after? config.pseudoMark.toList name).isNone = true ↔
      ¬config.pseudoMark.toList <+: name := by
    rw [Option.isNone_iff_eq_none, Option.eq_none_iff_forall_ne_some]
    constructor
    · rintro none ⟨rest, same⟩
      exact none rest (Text.after?_eq_some_iff.2 same.symm)
    · intro no_pseudo rest found
      exact no_pseudo ⟨rest, (Text.after?_eq_some_iff.1 found).symm⟩
  unfold isStatic
  rw [Bool.and_eq_true_iff, pseudo, Bool.not_eq_true', ← Bool.not_eq_true, List.contains_iff_mem]

theorem binds_iff {name : List Char} {value : Value} :
    Binds call inline name value ↔
      isStatic call.scope.config name = true ∧ value? call inline name = some value := by
  have bound : value? call inline name = some value ↔
      (Entries.get? inline (String.ofList name)).or
        (call.scope.parameters.get? (String.ofList name)) = some value ∧
        call.isCall value = false := by
    unfold value?
    dsimp only
    cases (Entries.get? inline (String.ofList name)).or
        (call.scope.parameters.get? (String.ofList name)) with
    | none => exact ⟨nofun, fun here => nomatch here.1⟩
    | some other =>
      dsimp only
      by_cases pending : call.isCall other = true
      · rw [if_pos pending]
        refine ⟨nofun, fun here => ?_⟩
        cases here.1
        exact absurd pending (Bool.eq_false_iff.1 here.2)
      · rw [if_neg pending]
        refine ⟨fun same => ?_, And.left⟩
        cases same
        exact ⟨rfl, Bool.eq_false_iff.2 pending⟩
  rw [isStatic_iff, bound]
  exact ⟨fun binds => ⟨⟨binds.no_pseudo, binds.no_attribute⟩, binds.bound, binds.known⟩,
    fun ⟨⟨no_pseudo, no_attribute⟩, bound, known⟩ => ⟨no_pseudo, no_attribute, bound, known⟩⟩

/-- When all names have values, these stand in the place of the names. -/
theorem substitute_eq_ok {pieces : List Piece} {value : List Char → Value}
    (binds : ∀ name, .name name ∈ pieces → Binds call inline name (value name)) :
    substitute call inline pieces = .ok (pieces.flatMap (Piece.filled value)) := by
  induction pieces with
  | nil => rfl
  | cons piece pieces ih =>
    have others := ih fun name listed => binds name (List.mem_cons_of_mem piece listed)
    cases piece with
    | plain c =>
      rw [substitute, others]
      rfl
    | escape name =>
      rw [substitute, others]
      rfl
    | name name =>
      obtain ⟨static, found⟩ := binds_iff.1 (binds name List.mem_cons_self)
      rw [substitute, static, found, others]
      rfl

/-- When a name has no value, nothing is substituted. -/
theorem substitute_eq_error {pieces : List Piece} {name : List Char}
    (listed : .name name ∈ pieces) (free : ∀ value, ¬Binds call inline name value) :
    ∃ line, substitute call inline pieces = .error line := by
  induction pieces with
  | nil => cases listed
  | cons piece pieces ih =>
    rcases List.mem_cons.1 listed with rfl | later
    · rw [substitute]
      split
      · exact ⟨_, rfl⟩
      · next static =>
        split
        · next value found =>
          exact absurd (binds_iff.2 ⟨by simpa using static, found⟩) (free value)
        · exact ⟨_, rfl⟩
    · obtain ⟨line, failed⟩ := ih later
      cases piece with
      | plain c => exact ⟨line, by rw [substitute, failed]; rfl⟩
      | escape name => exact ⟨line, by rw [substitute, failed]; rfl⟩
      | name other =>
        rw [substitute]
        split
        · exact ⟨_, rfl⟩
        · split
          · exact ⟨line, by rw [failed]; rfl⟩
          · exact ⟨_, rfl⟩

variable {answer : Value → Except Error Value}

theorem arguments_eq {parts : Value × Option Value} (found : parts? call.arguments = some parts) :
    arguments call = pure parts := by
  unfold parts? at found
  unfold arguments
  split at found <;> cases found <;> simp_all

theorem outcome_compiled (key : String) :
    (Program.compiled key tokenPattern).outcome answer = .ok tokens := by
  rw [Program.compiled, Program.outcome, compile_tokenPattern]
  rfl

/-- What comes of a substitution whose text and variables are resolved. -/
theorem outcome_sub {written : Value} {extra : Option Value}
    (parts : parts? call.arguments = some (written, extra)) {text : String}
    (resolved : answer written = .ok (.string text)) (given : Variables call answer extra inline) :
    (sub call).outcome answer =
      match substitute call inline (pieces text.toList) with
      | .ok result => .ok (.string (String.ofList result))
      | .error _ => .ok call.node := by
  have finish : ∀ entries : Entries Value, (do
      let _ ← Program.compiled call.key tokenPattern
      match substitute call entries (pieces text.toList) with
      | .ok result => pure (.string (String.ofList result))
      | .error line => Program.noting line call.node : Program Value).outcome answer =
        match substitute call entries (pieces text.toList) with
        | .ok result => .ok (.string (String.ofList result))
        | .error _ => .ok call.node := by
    intro entries
    refine (Program.outcome_bind answer _ _).trans ?_
    rw [outcome_compiled]
    dsimp only [bind, Except.bind]
    cases substitute call entries (pieces text.toList) <;> rfl
  unfold sub
  rw [arguments_eq parts]
  refine (call.outcome_known resolved rfl _).trans ?_
  cases extra with
  | none =>
    obtain rfl := given
    exact finish []
  | some written =>
    exact (call.outcome_known given.1 given.2 _).trans (finish inline)

/-- **A substitution is all or nothing.** The text is cut in the only way there is, which is that of
the pattern of tokens. If one name has no value, the call is kept; otherwise every name is replaced
by its value and every escape by the token it stands for, and nothing else changes. -/
theorem sub_exact {written : Value} {extra : Option Value}
    (parts : parts? call.arguments = some (written, extra)) {text : String}
    (resolved : answer written = .ok (.string text)) (given : Variables call answer extra inline) :
    ∃ pieces, (∀ other, Cuts text.toList other ↔ other = pieces) ∧
      (∃ pattern found, Pattern.compile tokenPattern = .ok pattern ∧
        pattern.Found ⟨none, text.toList⟩ found ∧ List.Forall₂ Reads found pieces) ∧
      ((∃ name, .name name ∈ pieces ∧ ∀ value, ¬Binds call inline name value) →
        (sub call).outcome answer = .ok call.node) ∧
      ∀ value : List Char → Value,
        (∀ name, .name name ∈ pieces → Binds call inline name (value name)) →
          (sub call).outcome answer =
            .ok (.string (String.ofList (pieces.flatMap (Piece.filled value)))) := by
  have cuts : Cuts text.toList (pieces text.toList) := cuts_iff.2 rfl
  obtain ⟨found, whole, reads⟩ := cuts.found none
  refine ⟨pieces text.toList, fun other => cuts_iff.trans eq_comm,
    ⟨tokens, found, compile_tokenPattern, whole, reads⟩, ?_, fun value binds => ?_⟩
  · rintro ⟨name, listed, free⟩
    obtain ⟨line, failed⟩ := substitute_eq_error listed free
    rw [outcome_sub parts resolved given, failed]
  · rw [outcome_sub parts resolved given, substitute_eq_ok binds]

end

/-- A text with an escape, a name and empty braces. The variable holds a token itself. -/
def greeting : Invocation :=
  ⟨"Fn::Sub", "Sub", .list [.string "$\x7b!Kept\x7d $\x7bName\x7d $\x7b\x7d",
    .map [("Name", .string "$\x7bPort\x7d")]], ⟨Config.standard, [("Name", .null)], .null⟩⟩

/-- The token in the variable stays as it is. -/
theorem sub_exact_greeting :
    Variables greeting .ok (some (.map [("Name", .string "$\x7bPort\x7d")]))
      [("Name", .string "$\x7bPort\x7d")] ∧
      (sub greeting).outcome .ok = .ok (.string "$\x7bKept\x7d $\x7bPort\x7d $\x7b\x7d") := by
  have given : Variables greeting .ok (some (.map [("Name", .string "$\x7bPort\x7d")]))
      [("Name", .string "$\x7bPort\x7d")] := ⟨rfl, rfl⟩
  refine ⟨given, ?_⟩
  obtain ⟨pieces, only, -, -, filled⟩ := sub_exact rfl rfl given
  obtain rfl := (only [.escape "Kept".toList, .plain ' ', .name "Name".toList, .plain ' ',
    .plain '$', .plain '\x7b', .plain '\x7d']).1 (cuts_iff.2 rfl)
  refine (filled (fun _ => .string "$\x7bPort\x7d") fun name listed => ?_).trans rfl
  have same : name = "Name".toList := by simpa using listed
  subst same
  exact ⟨by decide, by decide, rfl, rfl⟩

end CloudTemplate.Substitution

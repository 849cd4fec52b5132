import CloudTemplate.Resolver

/-!
# Lines that an action tells

A trail only grows: an action puts lines after those that are there. What it *tells* are these new
lines without the traces (`Trail.Tells`), and they are described together with the result that the
action returns, so that the lines of combined actions follow each other (`Trail.Tells.bind`).

The resolution of values leaves nothing but traces, since functions cannot ask for any other lines
(`Resolver.resolve_silent`).
-/

set_option autoImplicit false

namespace CloudTemplate

/-- The lines that are more than traces. -/
def LogLine.telling (lines : List LogLine) : List LogLine :=
  lines.filter fun line => line.level ≠ .trace

namespace Trail

variable {α β : Type}

/-- The action puts lines after those of any trail. These lines, without the traces, are as they
should be for the result. -/
def Tells (action : StateM Trail α) (post : α → List LogLine → Prop) : Prop :=
  ∀ trail, ∃ added, (action.run trail).2.lines = trail.lines ++ added ∧
    post (action.run trail).1 (LogLine.telling added)

/-- The action leaves nothing but traces. -/
def Silent (action : StateM Trail α) : Prop :=
  Tells action fun _ told => told = []

theorem lines_note (level : LogLevel) (text : String) (trail : Trail) :
    ((note level text).run trail).2.lines = trail.lines ++ [⟨level, text⟩] :=
  List.reverse_cons

namespace Tells

variable {action : StateM Trail α} {post : α → List LogLine → Prop}

theorem pure {result : α} (holds : post result []) : Tells (pure result) post :=
  fun _ => ⟨[], (List.append_nil _).symm, holds⟩

theorem imp (tells : Tells action post) {weaker : α → List LogLine → Prop}
    (implies : ∀ result told, post result told → weaker result told) : Tells action weaker := by
  intro trail
  obtain ⟨added, lines, holds⟩ := tells trail
  exact ⟨added, lines, implies _ _ holds⟩

/-- What is known of the result may be used for the lines. -/
theorem and_result (tells : Tells action post) {known : α → Prop}
    (result : ∀ trail, known (action.run trail).1) :
    Tells action fun result told => known result ∧ post result told := by
  intro trail
  obtain ⟨added, lines, holds⟩ := tells trail
  exact ⟨added, lines, result trail, holds⟩

/-- **One action after another**: the lines follow each other. -/
theorem bind (first : Tells action post) {next : α → StateM Trail β}
    {whole : β → List LogLine → Prop}
    (rest : ∀ value told, post value told →
      Tells (next value) fun result later => whole result (told ++ later)) :
    Tells (action >>= next) whole := by
  intro trail
  obtain ⟨added, lines, holds⟩ := first trail
  obtain ⟨more, further, also⟩ := rest _ _ holds (action.run trail).2
  refine ⟨added ++ more, ?_, ?_⟩
  · rw [← List.append_assoc, ← lines]
    exact further
  · unfold LogLine.telling at also ⊢
    rw [List.filter_append]
    exact also

/-- A line that is noted comes before those of the rest. -/
theorem noting {level : LogLevel} (telling : level ≠ .trace) {text : String}
    {next : Unit → StateM Trail β} {whole : β → List LogLine → Prop}
    (rest : Tells (next ()) fun result later => whole result (⟨level, text⟩ :: later)) :
    Tells (note level text >>= next) whole := by
  have noted : Tells (note level text) fun _ told => told = [⟨level, text⟩] := fun trail =>
    ⟨_, lines_note level text trail, List.filter_cons_of_pos (decide_eq_true telling)⟩
  refine noted.bind fun _ told line => ?_
  subst line
  exact rest

/-- What is done with a result tells nothing. -/
theorem map (tells : Tells action post) (f : α → β) {whole : β → List LogLine → Prop}
    (implies : ∀ value told, post value told → whole (f value) told) :
    Tells (f <$> action) whole :=
  fun trail =>
    let ⟨added, lines, holds⟩ := tells trail
    ⟨added, lines, implies _ _ holds⟩

end Tells

namespace Silent

theorem pure (result : α) : Silent (pure result) :=
  Tells.pure rfl

theorem trace (text : String) : Silent (note .trace text) :=
  fun trail => ⟨_, lines_note .trace text trail, rfl⟩

theorem compile (text : String) : Silent (compile text) :=
  fun trail => ⟨[], (List.append_nil trail.lines).symm, rfl⟩

/-- Nothing is heard of an action that is silent. -/
theorem bind_tells {action : StateM Trail α} (silent : Silent action) {next : α → StateM Trail β}
    {post : β → List LogLine → Prop} (rest : ∀ value, Tells (next value) post) :
    Tells (action >>= next) post :=
  Tells.bind silent fun value told nothing => by
    subst nothing
    exact rest value

theorem bind {action : StateM Trail α} (silent : Silent action) {next : α → StateM Trail β}
    (rest : ∀ value, Silent (next value)) : Silent (action >>= next) :=
  silent.bind_tells rest

theorem map {action : StateM Trail α} (silent : Silent action) (f : α → β) :
    Silent (f <$> action) :=
  Tells.map silent f fun _ _ nothing => nothing

end Silent

end Trail

/-! ## Attempts -/

namespace Tracked

open Trail

variable {α β : Type}

/-- An attempt that goes on with a result: the lines follow each other up to the first error. -/
theorem bind_tells {attempt : Tracked α} {post : Except Error α → List LogLine → Prop}
    (first : Tells attempt.run post) {next : α → Tracked β}
    {whole : Except Error β → List LogLine → Prop}
    (failed : ∀ error told, post (.error error) told → whole (.error error) told)
    (rest : ∀ value told, post (.ok value) told →
      Tells (next value).run fun result later => whole result (told ++ later)) :
    Tells (attempt >>= next).run whole := by
  rw [ExceptT.run_bind]
  refine first.bind fun answered told holds => ?_
  cases answered with
  | ok value => exact rest value told holds
  | error error =>
    refine .pure ?_
    rw [List.append_nil]
    exact failed error told holds

/-- A line that is noted comes before those of the rest. -/
theorem noting_tells {level : LogLevel} (telling : level ≠ .trace) {text : String}
    {next : Unit → Tracked β} {whole : Except Error β → List LogLine → Prop}
    (rest : Tells (next ()).run fun result later => whole result (⟨level, text⟩ :: later)) :
    Tells (liftM (note level text) >>= next : Tracked β).run whole :=
  Tells.noting telling rest

theorem bind_silent {attempt : Tracked α} (first : Silent attempt.run) {next : α → Tracked β}
    (rest : ∀ value, Silent (next value).run) : Silent (attempt >>= next).run := by
  refine bind_tells first (fun _ _ nothing => nothing) fun value told nothing => ?_
  subst nothing
  exact rest value

theorem map_silent {attempt : Tracked α} (silent : Silent attempt.run) (f : α → β) :
    Silent (f <$> attempt).run := by
  rw [ExceptT.run_map]
  exact silent.map _

theorem bind_pure_silent {attempt : Tracked α} (silent : Silent attempt.run) (f : α → β) :
    Silent (attempt >>= fun value => pure (f value)).run :=
  bind_silent silent fun _ => .pure _

/-- Errors that are changed on their way are not heard of. -/
theorem adapt_silent {attempt : Tracked α} (silent : Silent attempt.run) (f : Error → Error) :
    Silent (ExceptT.adapt f attempt : Tracked α).run :=
  silent.map (Except.mapError f)

end Tracked

/-! ## Values -/

open Trail

theorem Reference.resolve_silent (scope : Scope) (node target : Value) :
    Silent (Reference.resolve scope node target) := by
  unfold Reference.resolve
  cases target with
  | string name =>
    dsimp only
    cases scope.parameters.get? name with
    | some value => exact .pure value
    | none => exact (Silent.trace _).bind fun _ => .pure node
  | _ => exact (Silent.trace _).bind fun _ => .pure node

section Handler

variable {resolve : Value → Tracked Value} (silent : ∀ value, Silent (resolve value).run)
include silent

/-- A program can only ask for traces. -/
theorem Program.run_silent {α : Type} (program : Program α) :
    Silent (program.run (Resolver.handler resolve)).run := by
  induction program with
  | done result => exact .pure _
  | fail error => exact .pure _
  | resolve value next ih => exact Tracked.bind_silent (silent value) ih
  | compile text next ih => exact (Silent.compile text).bind ih
  | note line next ih => exact (Silent.trace line).bind fun _ => ih

namespace Resolver

theorem resolveItems_silent (items : List Value) : Silent (resolveItems resolve items).run := by
  induction items with
  | nil => exact .pure _
  | cons item items ih =>
    exact Tracked.bind_silent (silent item) fun _ => Tracked.bind_pure_silent ih _

theorem resolveEntries_silent (entries : List (String × Value)) :
    Silent (resolveEntries resolve entries).run := by
  induction entries with
  | nil => exact .pure _
  | cons entry entries ih =>
    exact Tracked.bind_silent (silent _) fun _ => Tracked.bind_pure_silent ih _

theorem resolveNode_silent (registry : Registry) (scope : Scope) (value : Value) :
    Silent (resolveNode registry scope resolve value).run := by
  unfold resolveNode
  cases value.call? scope.config with
  | none =>
    cases value with
    | map entries => exact Tracked.map_silent (resolveEntries_silent silent entries) Value.map
    | list items => exact Tracked.map_silent (resolveItems_silent silent items) Value.list
    | _ => exact .pure _
  | some call =>
    cases call with
    | reference target => exact (Reference.resolve_silent scope value target).map Except.ok
    | function key name arguments =>
      dsimp only [invoke]
      cases registry.function? name with
      | some function => exact Program.run_silent silent _
      | none => exact (Silent.trace _).bind fun _ => .pure _

end Resolver

end Handler

namespace Resolver

/-- **The resolution of a value leaves nothing but traces.** -/
theorem resolve_silent (registry : Registry) (scope : Scope) (value : Value) :
    Silent (resolve registry scope value).run := by
  unfold resolve
  generalize scope.config.maxDepth = levels
  induction levels generalizing value with
  | zero => exact .pure _
  | succ levels ih => exact resolveNode_silent ih registry scope value

end Resolver

end CloudTemplate

import CloudTemplate.Value.Basic
import CloudTemplate.Config
import CloudTemplate.Text.Affix

/-!
# Calls

A call is a map with one key that is either the reference key or starts with the mark of
functions. Nothing else tells it from data, and `Value.call?` is the one place that decides.
A value that is not yet known is a call, or holds one somewhere (`Value.containsCall`).
-/

set_option autoImplicit false

namespace CloudTemplate

/-- A call node. -/
inductive Call where
  /-- A reference to what `target` names. -/
  | reference (target : Value)
  /-- A call of the function `name`, which is its key without the mark. -/
  | function (key name : String) (arguments : Value)

namespace Call

/-- The name of a function, if the key of a map starts with the mark. -/
def functionName? (config : Config) (key : String) : Option String :=
  (Text.after? config.functionMark.toList key.toList).map String.ofList

end Call

namespace Value

/-- The call that a value is, if it is one. The reference key comes before the mark of
functions. -/
def call? (config : Config) : Value → Option Call
  | .map [(key, argument)] =>
    if key = config.referenceKey then some (.reference argument)
    else (Call.functionName? config key).map fun name => .function key name argument
  | _ => none

/-- Whether a value is a call. -/
def isCall (config : Config) (value : Value) : Bool :=
  (value.call? config).isSome

/-- The call node with this key. -/
def ofCall (key : String) (arguments : Value) : Value :=
  .map [(key, arguments)]

mutual
/-- Whether a value is a call or holds one somewhere. -/
def containsCall (config : Config) : Value → Bool
  | .list items => itemsContainCall config items
  | .map entries => isCall config (.map entries) || entriesContainCall config entries
  | _ => false

/-- Whether one of the items is a call or holds one. -/
def itemsContainCall (config : Config) : List Value → Bool
  | [] => false
  | item :: items => containsCall config item || itemsContainCall config items

/-- Whether one of the children is a call or holds one. -/
def entriesContainCall (config : Config) : List (String × Value) → Bool
  | [] => false
  | (_, child) :: entries => containsCall config child || entriesContainCall config entries
end

theorem itemsContainCall_eq_any (config : Config) (items : List Value) :
    itemsContainCall config items = items.any (containsCall config) := by
  induction items with
  | nil => rfl
  | cons item items ih => simp only [itemsContainCall, List.any_cons, ih]

theorem entriesContainCall_eq_any (config : Config) (entries : List (String × Value)) :
    entriesContainCall config entries = entries.any fun entry => containsCall config entry.2 := by
  induction entries with
  | nil => rfl
  | cons entry entries ih => simp only [entriesContainCall, List.any_cons, ih]

theorem isCall_eq_false_iff {config : Config} {value : Value} :
    value.isCall config = false ↔ value.call? config = none := by
  unfold isCall
  rw [Option.isSome_eq_false_iff, Option.isNone_iff_eq_none]

/-- A call contains a call. -/
theorem containsCall_of_isCall {config : Config} {value : Value} (h : value.isCall config) :
    value.containsCall config := by
  cases value with
  | map entries => simp [containsCall, h]
  | _ => simp [isCall, call?] at h

end Value

end CloudTemplate

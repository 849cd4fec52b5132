import CloudTemplate.Resolution

/-!
# Workspaces

A workspace has several template resolvers. Each has a configuration of its own, but resolvers
may share a registry or a cache of patterns: what one of them registers or compiles is there for
the others. Registries and caches are numbered, and a resolver has the numbers of its own.
-/

set_option autoImplicit false

namespace CloudTemplate

/-- A template resolver of a workspace. -/
structure Workspace.Member where
  config : Config
  /-- The number of its registry. -/
  registry : Nat
  /-- The number of its cache. -/
  cache : Nat
  deriving Repr, DecidableEq

/-- Template resolvers with the registries and caches that they use. -/
structure Workspace where
  members : List Workspace.Member := []
  registries : List Registry := []
  caches : List PatternCache := []

namespace Workspace

/-- The resolver with a number. -/
def member? (workspace : Workspace) (number : Nat) : Option Member :=
  workspace.members[number]?

/-- The registry that a resolver uses. -/
def registryOf (workspace : Workspace) (member : Member) : Registry :=
  workspace.registries.getD member.registry .empty

/-- The cache that a resolver uses. -/
def cacheOf (workspace : Workspace) (member : Member) : PatternCache :=
  workspace.caches.getD member.cache .empty

/-! ## Adding resolvers -/

/-- Adds a registry that no resolver uses yet. -/
def addRegistry (workspace : Workspace) (registry : Registry) : Workspace × Nat :=
  ({ workspace with registries := workspace.registries ++ [registry] },
    workspace.registries.length)

/-- Adds an empty cache that no resolver uses yet. -/
def addCache (workspace : Workspace) : Workspace × Nat :=
  ({ workspace with caches := workspace.caches ++ [.empty] }, workspace.caches.length)

/-- Adds a resolver, and tells its number. -/
def addMember (workspace : Workspace) (member : Member) : Workspace × Nat :=
  ({ workspace with members := workspace.members ++ [member] }, workspace.members.length)

/-- Adds a resolver with the standard functions and a cache of its own. -/
def create (workspace : Workspace) (config : Config) : Workspace × Nat :=
  let (workspace, registry) := workspace.addRegistry .standard
  let (workspace, cache) := workspace.addCache
  workspace.addMember ⟨config, registry, cache⟩

/-- Adds a resolver that shares everything with another one. -/
def clone (workspace : Workspace) (member : Member) : Workspace × Nat :=
  workspace.addMember member

/-- Adds a resolver with the standard functions that shares the cache of another one. -/
def shareCache (workspace : Workspace) (member : Member) (config : Config) : Workspace × Nat :=
  let (workspace, registry) := workspace.addRegistry .standard
  workspace.addMember ⟨config, registry, member.cache⟩

/-! ## Changing resolvers -/

/-- Changes a resolver. -/
def setMember (workspace : Workspace) (number : Nat) (member : Member) : Workspace :=
  { workspace with members := workspace.members.set number member }

/-- Gives a resolver an empty cache of its own. -/
def renewCache (workspace : Workspace) (number : Nat) (member : Member) : Workspace :=
  let (workspace, cache) := workspace.addCache
  workspace.setMember number { member with cache }

/-- Gives a resolver an empty registry of its own. -/
def emptyRegistry (workspace : Workspace) (number : Nat) (member : Member) : Workspace :=
  let (workspace, registry) := workspace.addRegistry .empty
  workspace.setMember number { member with registry }

/-- Changes the registry that a resolver uses, for all that use it. -/
def setRegistry (workspace : Workspace) (member : Member) (registry : Registry) : Workspace :=
  { workspace with registries := workspace.registries.set member.registry registry }

/-- Runs an action with the cache of a resolver, and keeps what the action compiled. -/
def withCache {α : Type} (workspace : Workspace) (member : Member) (action : StateM Trail α) :
    α × Workspace :=
  let (result, trail) := action.run { cache := workspace.cacheOf member }
  (result, { workspace with caches := workspace.caches.set member.cache trail.cache })

end Workspace

end CloudTemplate

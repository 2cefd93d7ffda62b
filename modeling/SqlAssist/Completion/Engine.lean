import SqlAssist.Completion.Answer
import SqlAssist.Completion.Memory
import SqlAssist.Document.Hover
import SqlAssist.Document.Scan

/-!
# The engine

An engine answers requests from a snapshot: a configuration and the index built from it. A new
configuration gives a new snapshot and leaves earlier ones as they are. The engine's catalog can be
rebuilt on its own; that does not touch the snapshot. Snapshots and indexes are numbered as they are
made, so that one can be told from another with the same contents.

In a session the engine and its caller share a memory. The engine copies each configuration that it
is given, and holds its snapshot by the place of the copy.
-/

namespace SqlAssist

/-- An index and the number of its build. -/
structure BuiltIndex where
  /-- The number of the build. -/
  build : Nat
  /-- The index. -/
  index : CatalogIndex
  deriving DecidableEq, Repr

/-- A configuration and the index built from it. -/
structure Snapshot where
  /-- The number of the snapshot. -/
  number : Nat
  /-- The configuration. -/
  configuration : Configuration
  /-- The index. -/
  built : BuiltIndex
  deriving DecidableEq, Repr

/-- An engine: its snapshot, its catalog and the number of builds so far. -/
structure Engine where
  /-- What requests are answered from. -/
  snapshot : Snapshot
  /-- The catalog's current index. -/
  catalog : BuiltIndex
  /-- The number of builds so far. -/
  builds : Nat
  deriving DecidableEq, Repr

namespace Engine

/-- The snapshot of a configuration at a given build. -/
def snapshotOf (build : Nat) (c : Configuration) : Snapshot :=
  ⟨build, c, ⟨build, .build c.schemas c.workflowVariables⟩⟩

/-- The engine of a configuration. -/
def ofConfiguration (c : Configuration) : Engine :=
  let s := snapshotOf 0 c
  ⟨s, s.built, 1⟩

/-- The engine with a new configuration. -/
def update (e : Engine) (c : Configuration) : Engine :=
  let s := snapshotOf e.builds c
  ⟨s, s.built, e.builds + 1⟩

/-- The engine with a catalog built anew and its snapshot as it was. -/
def rebuildCatalog (e : Engine) (schemas : List Schema) (vars : List Variable) : Engine :=
  { e with catalog := ⟨e.builds, .build schemas vars⟩, builds := e.builds + 1 }

/-- The index that requests are answered from. -/
def index (e : Engine) : CatalogIndex :=
  e.snapshot.built.index

/-- The candidates for a request. -/
def complete (e : Engine) (r : Request) : List Candidate :=
  r.complete e.index e.snapshot.configuration

/-- The description of the word between two texts. -/
def hover (e : Engine) (before after : Text) : Option Hover :=
  Hover.find? e.index e.snapshot.configuration (Hover.wordAt before after)

/-- The names of the catalog in a document. -/
def tokens (e : Engine) (lines : List Text) : List SemanticToken :=
  SemanticToken.scan e.index lines

end Engine

/-- A snapshot as it is held: the configuration is an object in the memory. -/
structure HeldSnapshot where
  /-- The number of the snapshot. -/
  number : Nat
  /-- The place of the configuration. -/
  place : Nat
  /-- The index. -/
  built : BuiltIndex
  deriving DecidableEq, Repr

/-- The snapshot of the configuration at a place, with an index built from it. -/
def HeldSnapshot.ofPlace (m : Memory) (build place : Nat) : HeldSnapshot :=
  let c := m.read place
  ⟨build, place, ⟨build, .build c.schemas c.workflowVariables⟩⟩

/-- The snapshot as it reads at the moment. -/
def HeldSnapshot.view (h : HeldSnapshot) (m : Memory) : Snapshot :=
  ⟨h.number, m.read h.place, h.built⟩

/-- An engine in the memory that it shares with its caller. The caller may change its objects at any
time, also the configurations that it has given to the engine. -/
structure Session where
  /-- All objects. -/
  memory : Memory
  /-- The places of the configurations given to the engine, in the order in which they were given. -/
  places : List Nat
  /-- What requests are answered from. -/
  current : HeldSnapshot
  /-- The catalog's current index. -/
  catalog : BuiltIndex
  /-- The number of builds so far. -/
  builds : Nat
  deriving DecidableEq, Repr

/-- What a caller can do. -/
inductive Session.Action where
  /-- Makes an object. -/
  | make (x : Cell)
  /-- Changes an object of its own. -/
  | write (place : Nat) (x : Cell)
  /-- Gives a configuration of its own to the engine, be it for the first time or not. -/
  | give (place : Nat)
  /-- Makes a configuration and gives it to the engine. -/
  | update (c : Configuration)
  /-- Changes a configuration that was given earlier, and its lists. -/
  | change (position : Nat) (c : Configuration)
  /-- Rebuilds the engine's catalog. -/
  | rebuildCatalog (schemas : List Schema) (vars : List Variable)
  /-- Asks for candidates. -/
  | complete (r : Request)
  /-- Asks for a description. -/
  | hover (before after : Text)

namespace Session

/-- A session whose engine holds the configuration at a place. -/
def ofPlace (m : Memory) (given : List Nat) (place : Nat) : Session :=
  let h := HeldSnapshot.ofPlace m 0 place
  ⟨m, given, h, h.built, 1⟩

/-- A session with an engine for a configuration; without one, the engine takes the default. -/
def start : Option Configuration → Session
  | some c =>
    let (m, place) := Memory.store [] .caller c
    let (m, own) := m.copy place
    ofPlace m [place] own
  | none =>
    let (m, own) := Memory.store [] .engine {}
    ofPlace m [] own

/-- The engine as it reads at the moment. -/
def engine (s : Session) : Engine :=
  ⟨s.current.view s.memory, s.catalog, s.builds⟩

/-- The values that the given configurations have at the moment. -/
def given (s : Session) : List Configuration :=
  s.places.map s.memory.read

/-- The session after the engine was given the configuration at a place. The engine keeps a copy. -/
def adopt (s : Session) (place : Nat) : Session :=
  let (m, own) := s.memory.copy place
  let h := HeldSnapshot.ofPlace m s.builds own
  ⟨m, s.places ++ [place], h, h.built, s.builds + 1⟩

/-- The session after an action. -/
def step (s : Session) : Action → Session
  | .make x =>
    if s.memory.refersToCallers x then { s with memory := (s.memory.push .caller x).1 } else s
  | .write place x => { s with memory := s.memory.write place x }
  | .give place => if s.memory.isCallersConfiguration place then s.adopt place else s
  | .update c =>
    let (m, place) := s.memory.store .caller c
    adopt { s with memory := m } place
  | .change position c =>
    match s.places[position]? with
    | some place => { s with memory := s.memory.overwrite place c }
    | none => s
  | .rebuildCatalog schemas vars =>
    { s with catalog := ⟨s.builds, .build schemas vars⟩, builds := s.builds + 1 }
  | .complete _ | .hover _ _ => s

/-- The session after several actions. -/
def run (s : Session) (actions : List Action) : Session :=
  actions.foldl step s

end Session

end SqlAssist

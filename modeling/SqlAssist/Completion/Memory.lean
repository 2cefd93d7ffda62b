import SqlAssist.Catalog.Configuration

/-!
# Memory

A configuration in use is an object that can be changed, and so is each of its lists. The memory
holds the objects in the order in which they were made, each with the one who made it. A
configuration refers to its lists by their places, so a change of a list shows in every
configuration that refers to it.

`read` gives the value that a configuration has at the moment, `store` makes objects for a value.
What is read and stored again is a copy that shares no object with the original. The caller writes
to any of its objects (`write`), in any order and with any sharing between them; it does not have
those of the engine.
-/

namespace SqlAssist

/-- The one who has made an object. -/
inductive Owner where
  /-- The caller. -/
  | caller
  /-- The engine. -/
  | engine
  deriving DecidableEq, Repr

/-- An object that can be changed. -/
inductive Cell where
  /-- A configuration, with the places of its lists. -/
  | configuration (databaseType : Text)
      (schemas builtinsByType keywords operators workflowVariables : Nat)
  /-- A list of schemas. -/
  | schemas (items : List Schema)
  /-- The places of the lists of functions, by the type of database. -/
  | builtinsByType (places : OrderedMap Text Nat)
  /-- A list of functions. -/
  | builtins (items : List Builtin)
  /-- A list of keywords or operators. -/
  | words (items : List Text)
  /-- A list of workflow variables. -/
  | workflowVariables (items : List Variable)
  deriving DecidableEq, Repr

/-- The objects are of the same kind. An object is never changed into one of another kind. -/
def Cell.isLike : Cell → Cell → Bool
  | configuration .., configuration .. | schemas _, schemas _
  | builtinsByType _, builtinsByType _ | builtins _, builtins _ | words _, words _
  | workflowVariables _, workflowVariables _ => true
  | _, _ => false

/-- The places of the objects that an object refers to. -/
def Cell.places : Cell → List Nat
  | configuration _ a b c d e => [a, b, c, d, e]
  | builtinsByType lists => lists.map (·.2)
  | schemas _ | builtins _ | words _ | workflowVariables _ => []

/-- The objects made so far, each with its owner. The place of an object is its position. -/
abbrev Memory := List (Owner × Cell)

namespace Memory

/-! ### Reading -/

/-- The object at a place. -/
def cell? (m : Memory) (place : Nat) : Option Cell :=
  m[place]?.map (·.2)

/-- The schemas at a place; a place without such a list holds none. -/
def schemasAt (m : Memory) (place : Nat) : List Schema :=
  match m.cell? place with
  | some (.schemas items) => items
  | _ => []

/-- The functions at a place. -/
def builtinsAt (m : Memory) (place : Nat) : List Builtin :=
  match m.cell? place with
  | some (.builtins items) => items
  | _ => []

/-- The functions of each type of database, as the lists stand at the moment. -/
def builtinsByTypeAt (m : Memory) (place : Nat) : OrderedMap Text (List Builtin) :=
  match m.cell? place with
  | some (.builtinsByType places) => places.map fun p => (p.1, m.builtinsAt p.2)
  | _ => []

/-- The words at a place. -/
def wordsAt (m : Memory) (place : Nat) : List Text :=
  match m.cell? place with
  | some (.words items) => items
  | _ => []

/-- The workflow variables at a place. -/
def variablesAt (m : Memory) (place : Nat) : List Variable :=
  match m.cell? place with
  | some (.workflowVariables items) => items
  | _ => []

/-- The value of the configuration at a place. -/
def read (m : Memory) (place : Nat) : Configuration :=
  match m.cell? place with
  | some (.configuration databaseType schemas builtinsByType keywords operators vars) =>
    { databaseType
      schemas := m.schemasAt schemas
      builtinsByType := m.builtinsByTypeAt builtinsByType
      keywords := m.wordsAt keywords
      operators := m.wordsAt operators
      workflowVariables := m.variablesAt vars }
  | _ => {}

/-! ### Making objects -/

/-- The memory with one more object, and its place. -/
def push (m : Memory) (o : Owner) (x : Cell) : Memory × Nat :=
  (m ++ [(o, x)], m.length)

/-- The memory with new lists of functions, and their places. -/
def pushBuiltins (m : Memory) (o : Owner) :
    OrderedMap Text (List Builtin) → Memory × OrderedMap Text Nat
  | [] => (m, [])
  | (databaseType, items) :: rest =>
    let (m, place) := m.push o (.builtins items)
    let (m, places) := pushBuiltins m o rest
    (m, (databaseType, place) :: places)

/-- The memory with new objects for a configuration and all its lists, and the place of the
configuration. -/
def store (m : Memory) (o : Owner) (c : Configuration) : Memory × Nat :=
  let (m, schemas) := m.push o (.schemas c.schemas)
  let (m, places) := m.pushBuiltins o c.builtinsByType
  let (m, builtinsByType) := m.push o (.builtinsByType places)
  let (m, keywords) := m.push o (.words c.keywords)
  let (m, operators) := m.push o (.words c.operators)
  let (m, vars) := m.push o (.workflowVariables c.workflowVariables)
  m.push o (.configuration c.databaseType schemas builtinsByType keywords operators vars)

/-- The memory with a copy for the engine of the configuration at a place and of all its lists, and
the place of the copy. -/
def copy (m : Memory) (place : Nat) : Memory × Nat :=
  m.store .engine (m.read place)

/-! ### Changing objects -/

/-- An object of the caller stands at the place. -/
def isCallers (m : Memory) (place : Nat) : Bool :=
  m[place]?.any (·.1 = .caller)

/-- A configuration of the caller stands at the place. -/
def isCallersConfiguration (m : Memory) (place : Nat) : Bool :=
  match m[place]? with
  | some (.caller, .configuration ..) => true
  | _ => false

/-- An object that refers to objects of the caller only. -/
def refersToCallers (m : Memory) (x : Cell) : Bool :=
  x.places.all m.isCallers

/-- The memory with an object of the caller replaced by one of its kind. -/
def write (m : Memory) (place : Nat) (x : Cell) : Memory :=
  if m.isCallers place && (m.cell? place).any (·.isLike x) && m.refersToCallers x then
    m.set place (.caller, x)
  else m

/-- The memory with a configuration of the caller and its lists changed in place. -/
def overwrite (m : Memory) (place : Nat) (c : Configuration) : Memory :=
  match m.cell? place with
  | some (.configuration _ schemas builtinsByType keywords operators vars) =>
    let (m, places) := m.pushBuiltins .caller c.builtinsByType
    [(place, .configuration c.databaseType schemas builtinsByType keywords operators vars),
      (schemas, .schemas c.schemas), (builtinsByType, .builtinsByType places),
      (keywords, .words c.keywords), (operators, .words c.operators),
      (vars, .workflowVariables c.workflowVariables)].foldl (fun m p => m.write p.1 p.2) m
  | _ => m

end Memory

end SqlAssist

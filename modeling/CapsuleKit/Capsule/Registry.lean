import CapsuleKit.Capsule.Definition

/-!
# Capsule registries

A registry holds capsule definitions in the order in which their ids were first registered. A later
definition with the same id takes the place of the earlier one. `registerEntries` takes definitions
and raw document values and stops at the first value that is no definition; what came before it stays.
-/

namespace CapsuleKit

/-- Registered definitions, at most one for an id. -/
structure Registry where
  definitions : List Definition

namespace Registry

def empty : Registry := ⟨[]⟩

/-- Puts a definition in the place of the one with its id, or at the end. -/
def place (d : Definition) : List Definition → List Definition
  | [] => [d]
  | e :: es => if e.id = d.id then d :: es else e :: place d es

def lookup (r : Registry) (id : String) : Option Definition :=
  r.definitions.find? fun d => d.id == id

def contains (r : Registry) (id : String) : Bool :=
  (r.lookup id).isSome

def insert (r : Registry) (d : Definition) : Registry :=
  ⟨place d r.definitions⟩

def size (r : Registry) : Nat :=
  r.definitions.length

def ids (r : Registry) : List String :=
  r.definitions.map (·.id)

def template (r : Registry) (id platform : String) : Option Template :=
  (r.lookup id).bind (·.template? platform)

/-- Whether a capsule is registered and has a template for a platform. -/
def supports (r : Registry) (id platform : String) : Bool :=
  (r.template id platform).isSome

/-- The platforms a capsule has templates for. -/
def platformsOf (r : Registry) (id : String) : List String :=
  match r.lookup id with
  | some d => d.platforms.map (·.1)
  | none => []

/-- The definition of a capsule, if it supports a platform. -/
def supported (r : Registry) (platform id : String) : Option Definition :=
  if r.supports id platform then r.lookup id else none

/-- What came of a registration: the registry, the ids that were replaced on the way, in order, and
the problems of the entry that stopped it. -/
structure Outcome where
  registry : Registry
  replaced : List String
  problems : Option (List Schema.Problem)

/-- Registers one definition. -/
def Outcome.add (o : Outcome) (d : Definition) : Outcome :=
  { o with
    registry := o.registry.insert d
    replaced := if o.registry.contains d.id then o.replaced ++ [d.id] else o.replaced }

/-- What may be registered: a definition, or a raw value that is to be read as one. -/
inductive Entry where
  | made (d : Definition)
  | raw (v : Value)

/-- The definition of an entry. -/
def Entry.decode : Entry → Schema.Checked Definition
  | .made d => .ok d
  | .raw v => Definition.decode v

def registerAll (o : Outcome) : List Entry → Outcome
  | [] => o
  | e :: es =>
    match e.decode with
    | .ok d => registerAll (o.add d) es
    | .bad ps => { o with problems := some ps }

/-- Registers entries up to the first bad one. -/
def registerEntries (r : Registry) (entries : List Entry) : Outcome :=
  registerAll ⟨r, [], none⟩ entries

/-- Registers raw definitions up to the first bad one. -/
def register (r : Registry) (values : List Value) : Outcome :=
  r.registerEntries (values.map .raw)

/-- Registers definitions. -/
def insertAll (r : Registry) (ds : List Definition) : Registry :=
  (r.registerEntries (ds.map .made)).registry

/-- The line that is logged when a definition is replaced. -/
def replacedMessage (id : String) : String :=
  "Replacing capsule definition '" ++ id ++ "'"

end Registry

/-- The message for a raw value that is no capsule definition. -/
def Definition.invalidMessage (problems : List Schema.Problem) : String :=
  "Invalid capsule definition: " ++ decimalText problems.length ++
    (if problems.length = 1 then " validation error" else " validation errors") ++
    " for CapsuleDefinition"

end CapsuleKit

/-!
# Problems of a document

A `Problem` says where in a document something does not fit and what kind of misfit it is. A checked
value, `Checked α`, is either a value or all the problems that were found: checking goes on after
the first problem, and `<*>` joins the problems of both sides in order.
-/

namespace CapsuleKit.Schema

/-- One step from a value to a part of it. -/
inductive Step where
  | key (name : String)
  | index (n : Int)
  deriving DecidableEq

/-- What does not fit. -/
inductive Kind where
  | missing
  | modelType
  | listType
  | dictType
  | stringType
  | stringUnicode
  | stringTooShort
  | patternMismatch
  | boolType
  | boolParsing
  | intType
  | intParsing
  | intParsingSize
  | intFromFloat
  | finiteNumber
  | floatType
  | floatParsing
  | recursionLoop
  deriving DecidableEq

/-- The word for a kind of problem in reports. -/
def Kind.name : Kind → String
  | .missing => "missing"
  | .modelType => "model_type"
  | .listType => "list_type"
  | .dictType => "dict_type"
  | .stringType => "string_type"
  | .stringUnicode => "string_unicode"
  | .stringTooShort => "string_too_short"
  | .patternMismatch => "string_pattern_mismatch"
  | .boolType => "bool_type"
  | .boolParsing => "bool_parsing"
  | .intType => "int_type"
  | .intParsing => "int_parsing"
  | .intParsingSize => "int_parsing_size"
  | .intFromFloat => "int_from_float"
  | .finiteNumber => "finite_number"
  | .floatType => "float_type"
  | .floatParsing => "float_parsing"
  | .recursionLoop => "recursion_loop"

/-- A misfit and the way to it from the top of the document. -/
structure Problem where
  path : List Step
  kind : Kind
  deriving DecidableEq

/-- A value, or every problem that was found on the way to it. -/
inductive Checked (α : Type) where
  | ok (value : α)
  | bad (problems : List Problem)

namespace Checked

variable {α β : Type}

/-- A single problem at this very place. -/
def fail (k : Kind) : Checked α :=
  .bad [⟨[], k⟩]

def map (f : α → β) : Checked α → Checked β
  | .ok a => .ok (f a)
  | .bad ps => .bad ps

/-- Both sides are looked at, so that all problems are reported. -/
def seq (f : Checked (α → β)) (x : Checked α) : Checked β :=
  match f, x with
  | .ok f, .ok a => .ok (f a)
  | .ok _, .bad qs => .bad qs
  | .bad ps, .ok _ => .bad ps
  | .bad ps, .bad qs => .bad (ps ++ qs)

instance : Applicative Checked where
  pure := .ok
  map := map
  seq f x := seq f (x ())

/-- The problems of a part, seen from the whole. -/
def under (steps : List Step) : Checked α → Checked α
  | .ok a => .ok a
  | .bad ps => .bad (ps.map fun p => { p with path := steps ++ p.path })

/-- The value, or another one when there are problems. -/
def getD (default : α) : Checked α → α
  | .ok a => a
  | .bad _ => default

def problems : Checked α → List Problem
  | .ok _ => []
  | .bad ps => ps

end Checked

end CapsuleKit.Schema

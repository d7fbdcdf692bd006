import CapsuleKit.Document.Display
import CapsuleKit.Number.Reading
import CapsuleKit.Schema.Problem

/-!
# Decoding document values

Decoders from `Value` to plain types, lenient where a document may spell a value in several ways:
truth values and numbers may stand in texts, truth values count as numbers, a whole number may be
written with a fraction of zero. `Fields` reads the members of a model by name: every member may be
spelled by its alias or by its long name, and unknown members are ignored.
-/

namespace CapsuleKit.Schema

/-- A reader of values that reports all problems. -/
abbrev Decoder (α : Type) := Value → Checked α

/-- Any value at all. -/
def any : Decoder Value := .ok

/-- The text that bytes in the common encoding write. -/
def textOfBytes? (data : List UInt8) : Option String :=
  String.fromUTF8? (ByteArray.mk data.toArray)

def text : Decoder String
  | .text s => .ok s
  | .bytes data =>
    match textOfBytes? data with
    | some s => .ok s
    | none => .fail .stringUnicode
  | _ => .fail .stringType

/-- A value that has to pass a check besides. -/
def also {α : Type} (d : Decoder α) (holds : α → Bool) (kind : Kind) : Decoder α := fun v =>
  match d v with
  | .ok a => if holds a then .ok a else .fail kind
  | .bad ps => .bad ps

/-- A text of at least one character. -/
def nonEmptyText : Decoder String :=
  also text (!·.isEmpty) .stringTooShort

/-- A text that satisfies a pattern. -/
def patternText (pattern : String → Bool) : Decoder String :=
  also text pattern .patternMismatch

/-- Null stands for an absent value. -/
def nullable {α : Type} (d : Decoder α) : Decoder (Option α)
  | .null => .ok none
  | v => (d v).map some

def trueWords : List String := ["1", "on", "t", "true", "y", "yes"]

def falseWords : List String := ["0", "off", "f", "false", "n", "no"]

/-- The truth value that a word stands for, in any case. -/
def boolOfWord? (s : String) : Option Bool :=
  let w := String.ofList (Number.lowerAscii s.toList)
  if trueWords.contains w then some true else if falseWords.contains w then some false else none

/-- The whole numbers of 64 bits, without the lowest one. -/
def fitsWord (n : Int) : Bool :=
  -0x8000000000000000 < n && n < 0x8000000000000000

/-- A whole number within 64 bits that a floating-point number is equal to. -/
def intOfFloat (x : Binary64) : Checked Int :=
  match x.parts with
  | .finite .. =>
    match x.toInt? with
    | none => .fail .intFromFloat
    | some n => if fitsWord n then .ok n else .fail .intParsingSize
  | _ => .fail .finiteNumber

/-- The truth value that a number stands for. -/
def boolOfInt (n : Int) : Checked Bool :=
  if n = 0 then .ok false else if n = 1 then .ok true else .fail .boolParsing

def boolOfText (s : String) : Checked Bool :=
  match boolOfWord? s with
  | some b => .ok b
  | none => .fail .boolParsing

def bool : Decoder Bool
  | .bool b => .ok b
  | .int n =>
    if -0x8000000000000000 ≤ n ∧ n < 0x8000000000000000 then boolOfInt n else .fail .boolType
  | .float x =>
    match intOfFloat x with
    | .ok n => boolOfInt n
    | .bad _ => .fail .boolType
  | .text s => boolOfText s
  | .bytes data =>
    match textOfBytes? data with
    | some s => boolOfText s
    | none => .fail .boolParsing
  | _ => .fail .boolType

def intOfText (s : String) : Checked Int :=
  match Number.readWhole s with
  | .ok n => .ok n
  | .error .malformed => .fail .intParsing
  | .error .tooLong => .fail .intParsingSize

def int : Decoder Int
  | .int n => .ok n
  | .bool b => .ok (if b then 1 else 0)
  | .float x => intOfFloat x
  | .text s => intOfText s
  | .bytes data =>
    match textOfBytes? data with
    | some s => intOfText s
    | none => .fail .intParsing
  | _ => .fail .intType

def floatOfText (s : String) : Checked Binary64 :=
  match Number.readFloat? s with
  | some x => .ok x
  | none => .fail .floatParsing

def float : Decoder Binary64
  | .float x => .ok x
  | .int n =>
    let x := Binary64.ofInt n
    if x.isInfinite then .fail .floatType else .ok x
  | .bool b => .ok (Binary64.ofInt (if b then 1 else 0))
  | .text s => floatOfText s
  | .bytes data =>
    match textOfBytes? data with
    | some s => floatOfText s
    | none => .fail .floatParsing
  | _ => .fail .floatType

/-- The items of a list from a position on. -/
def items {α : Type} (d : Decoder α) : Nat → List Value → Checked (List α)
  | _, [] => .ok []
  | i, v :: vs => List.cons <$> ((d v).under [.index (Int.ofNat i)]) <*> items d (i + 1) vs

/-- The items of a list, or the members of a set. -/
def items? : Value → Option (List Value)
  | .list vs => some vs
  | .set members => some (members.map .scalar)
  | .again (.list vs) => some vs
  | _ => none

def list {α : Type} (d : Decoder α) : Decoder (List α) := fun v =>
  match items? v with
  | some vs => items d 0 vs
  | none => .fail .listType

/-- What stands for a number that is too long to be written. -/
def unprintable : String := "<unprintable int object>"

/-- A key of a map as a step: whole numbers and truth values count as numbers. -/
def keyStep : Scalar → Step
  | .text s => .key s
  | .bool b => .index (if b then 1 else 0)
  | .int n =>
    if -0x8000000000000000 ≤ n ∧ n < 0x8000000000000000 then .index n
    else .key (if Nat.pow 10 Number.digitLimit ≤ n.natAbs then unprintable else intText n)
  | k => .key k.shown

/-- A key of a map that has texts as keys. -/
def textKey (k : Scalar) : Checked String :=
  (text (.scalar k)).under [keyStep k, .key "[key]"]

/-- The entries of a map that has texts as keys. -/
def entries {α : Type} (d : Decoder α) : List (Scalar × Value) → Checked (List (String × α))
  | [] => .ok []
  | (k, v) :: es =>
    (fun name a rest => (name, a) :: rest) <$> textKey k <*> ((d v).under [keyStep k]) <*>
      entries d es

/-- The entries of a map. -/
def entries? : Value → Option (List (Scalar × Value))
  | .map es => some es
  | .again (.map es) => some es
  | _ => none

def dict {α : Type} (d : Decoder α) : Decoder (List (String × α)) := fun v =>
  match entries? v with
  | some es => entries d es
  | none => .fail .dictType

/-! ### Members of a model -/

/-- The members of a model as the document gives them. -/
abbrev Fields := List (Scalar × Value)

/-- How a member is spelled: its alias is looked for first, then its long name. -/
structure Spelling where
  short : String
  long : String

/-- A member with one spelling only. -/
def Spelling.plain (name : String) : Spelling := ⟨name, name⟩

namespace Fields

/-- The member as the document spells it, with its value. -/
def find? (fs : Fields) (s : Spelling) : Option (String × Value) :=
  match Value.field? s.short fs with
  | some v => some (s.short, v)
  | none => (Value.field? s.long fs).map (s.long, ·)

/-- A member that has to be there. -/
def required {α : Type} (fs : Fields) (s : Spelling) (d : Decoder α) : Checked α :=
  match fs.find? s with
  | some (name, v) => (d v).under [.key name]
  | none => Checked.under [.key s.short] (.fail .missing)

/-- A member with a value for its absence. -/
def withDefault {α : Type} (fs : Fields) (s : Spelling) (default : α) (d : Decoder α) :
    Checked α :=
  match fs.find? s with
  | some (name, v) => (d v).under [.key name]
  | none => .ok default

end Fields

/-- A model is read from a map. -/
def model {α : Type} (build : Fields → Checked α) : Decoder α := fun v =>
  match entries? v with
  | some es => build es
  | none => .fail .modelType

end CapsuleKit.Schema

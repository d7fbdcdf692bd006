import CapsuleKit.Document.Moment

/-!
# Document values

`Value` is what a document of any format holds: a scalar, a list, a map with its entries in the
order of the document, or a set. The keys of a map are scalars, because some formats allow keys that
are not texts. `Value.object` makes a map with texts as keys. A format with references may put a
collection into itself; where it comes up again stands `again` with its content.
-/

namespace CapsuleKit

inductive Scalar where
  | null
  | bool (b : Bool)
  | int (n : Int)
  | float (x : Binary64)
  | text (s : String)
  | moment (m : Moment)
  | bytes (data : List UInt8)
  deriving DecidableEq

inductive Value where
  | scalar (s : Scalar)
  | list (items : List Value)
  | map (entries : List (Scalar × Value))
  | set (members : List Scalar)
  | again (content : Value)

namespace Scalar

/-- The number that a scalar is as a key: truth values count as one and zero. -/
def keyNumber? : Scalar → Option (Int ⊕ Binary64)
  | .bool b => some (.inl (if b then 1 else 0))
  | .int n => some (.inl n)
  | .float x =>
    match x.toInt? with
    | some n => some (.inl n)
    | none => some (.inr x)
  | _ => none

/-- Whether two scalars name the same entry of a map: numbers do when they are equal as numbers, and
moments when they are the same. -/
def sameKey (a b : Scalar) : Bool :=
  match a.keyNumber?, b.keyNumber? with
  | some (.inl m), some (.inl n) => m == n
  | some (.inr x), some (.inr y) => x == y && x != Binary64.nan
  | none, none =>
    match a, b with
    | .moment m, .moment n => m.same n
    | _, _ => a == b
  | _, _ => false

end Scalar

namespace Value

@[match_pattern] abbrev null : Value := .scalar .null
@[match_pattern] abbrev bool (b : Bool) : Value := .scalar (.bool b)
@[match_pattern] abbrev int (n : Int) : Value := .scalar (.int n)
@[match_pattern] abbrev float (x : Binary64) : Value := .scalar (.float x)
@[match_pattern] abbrev text (s : String) : Value := .scalar (.text s)
@[match_pattern] abbrev moment (m : Moment) : Value := .scalar (.moment m)
@[match_pattern] abbrev bytes (data : List UInt8) : Value := .scalar (.bytes data)

instance : Inhabited Value := ⟨.null⟩

/-- A map whose keys are texts. -/
def object (fields : List (String × Value)) : Value :=
  .map (fields.map fun f => (.text f.1, f.2))

/-- A text, or null when there is none. -/
def ofText? : Option String → Value
  | some s => .text s
  | none => .null

def ofTexts (ss : List String) : Value :=
  .list (ss.map .text)

def isNull : Value → Bool
  | .null => true
  | _ => false

/-- The value under a text key. -/
def field? (key : String) : List (Scalar × Value) → Option Value
  | [] => none
  | (k, v) :: rest => if k = .text key then some v else field? key rest

/-- Puts an entry into a map: a key that is there keeps its place and gets the new value. -/
def insert (entries : List (Scalar × Value)) (key : Scalar) (value : Value) :
    List (Scalar × Value) :=
  match entries with
  | [] => [(key, value)]
  | (k, v) :: rest => if k.sameKey key then (k, value) :: rest else (k, v) :: insert rest key value

/-- The word for the kind of a value in messages. -/
def kindName : Value → String
  | .null => "NoneType"
  | .bool _ => "bool"
  | .int _ => "int"
  | .float _ => "float"
  | .text _ => "str"
  | .moment (.date _) => "date"
  | .moment (.time _) => "time"
  | .moment (.stamp ..) => "datetime"
  | .bytes _ => "bytes"
  | .list _ => "list"
  | .map _ => "dict"
  | .set _ => "set"
  | .again v => v.kindName

mutual

/-- Whether a collection comes up inside itself, so that the value has no end. -/
def isEndless : Value → Bool
  | .again _ => true
  | .list vs => anyEndless vs
  | .map es => anyEndlessEntry es
  | _ => false

def anyEndless : List Value → Bool
  | [] => false
  | v :: vs => isEndless v || anyEndless vs

def anyEndlessEntry : List (Scalar × Value) → Bool
  | [] => false
  | (_, v) :: es => isEndless v || anyEndlessEntry es

end

end Value

end CapsuleKit

import CapsuleKit.Document.KeyOrder
import CapsuleKit.Text.Digit

/-!
# Writing JSON

Two layouts of a value in ASCII-only JSON: `compact`, on one line with the keys of every map sorted
by code point, and `pretty`, with two spaces of indentation and the keys in their own order.
-/

namespace CapsuleKit.Json

def unitEscape (n : Nat) : List Char :=
  '\\' :: 'u' :: Text.hexDigits 4 n

/-- A character of a string: the short escapes, printable ASCII, and all others as UTF-16 code
units. -/
def stringChar (c : Char) : List Char :=
  if c = '"' then ['\\', '"']
  else if c = '\\' then ['\\', '\\']
  else if c = '\n' then ['\\', 'n']
  else if c = '\r' then ['\\', 'r']
  else if c = '\t' then ['\\', 't']
  else if c.toNat = 8 then ['\\', 'b']
  else if c.toNat = 12 then ['\\', 'f']
  else if 32 ≤ c.toNat ∧ c.toNat < 127 then [c]
  else if c.toNat < 0x10000 then unitEscape c.toNat
  else
    let n := c.toNat - 0x10000
    unitEscape (0xD800 + n / 0x400) ++ unitEscape (0xDC00 + n % 0x400)

/-- A string literal. -/
def string (s : String) : String :=
  "\"" ++ String.ofList (s.toList.flatMap stringChar) ++ "\""

/-- A number that is not whole. -/
def floatText (x : Binary64) : String :=
  match x.parts with
  | .nan => "NaN"
  | .infinite s => if s then "-Infinity" else "Infinity"
  | .finite .. => x.text

def scalarText : Scalar → String
  | .null => "null"
  | .bool b => if b then "true" else "false"
  | .int n => intText n
  | .float x => floatText x
  | .text s => string s
  | .moment m => string m.iso
  | .bytes data => string (String.ofList (data.map fun b => Char.ofNat b.toNat))

/-- A key of a map: texts as they are, other scalars as the text of their JSON. -/
def keyText : Scalar → String
  | .text s => string s
  | .moment m => string m.iso
  | .bytes data => scalarText (.bytes data)
  | k => string (scalarText k)

/-- The order of keys: texts by code point, numbers by value; keys without a common order stay as
they are. -/
def keyBefore (a b : Scalar × String) : Bool :=
  match b.1.keyLess a.1 with
  | .ok less => !less
  | .error _ => true

mutual
/-- One line, keys sorted. -/
def compact : Value → String
  | .scalar s => scalarText s
  | .list items => "[" ++ String.intercalate ", " (compactItems items) ++ "]"
  | .map entries =>
    "\x7b" ++
      String.intercalate ", "
        (((compactEntries entries).mergeSort keyBefore).map fun e => keyText e.1 ++ ": " ++ e.2) ++
      "\x7d"
  | .set members => "[" ++ String.intercalate ", " (members.map scalarText) ++ "]"
  | .again v => compact v

def compactItems : List Value → List String
  | [] => []
  | v :: vs => compact v :: compactItems vs

def compactEntries : List (Scalar × Value) → List (Scalar × String)
  | [] => []
  | (k, v) :: es => (k, compact v) :: compactEntries es
end

def indentText (depth : Nat) : String :=
  String.ofList (List.replicate (2 * depth) ' ')

def block (opening closing : String) (depth : Nat) : List String → String
  | [] => opening ++ closing
  | lines =>
    opening ++ "\n" ++
      String.intercalate ",\n" (lines.map (indentText (depth + 1) ++ ·)) ++
      "\n" ++ indentText depth ++ closing

mutual
/-- The layout below a margin of `depth` levels. -/
def prettyAt (depth : Nat) : Value → String
  | .scalar s => scalarText s
  | .list items => block "[" "]" depth (prettyItems (depth + 1) items)
  | .map entries => block "\x7b" "\x7d" depth (prettyEntries (depth + 1) entries)
  | .set members => block "[" "]" depth (members.map scalarText)
  | .again v => prettyAt depth v

def prettyItems (depth : Nat) : List Value → List String
  | [] => []
  | v :: vs => prettyAt depth v :: prettyItems depth vs

def prettyEntries (depth : Nat) : List (Scalar × Value) → List String
  | [] => []
  | (k, v) :: es => (keyText k ++ ": " ++ prettyAt depth v) :: prettyEntries depth es
end

/-- Many lines, two spaces a level, keys in their own order. -/
def pretty (v : Value) : String :=
  prettyAt 0 v

end CapsuleKit.Json

import CapsuleKit.Toml.Number

/-!
# Reading TOML

A document is a sequence of `key = value` lines under headers of tables and of arrays of tables. A
draft is the table as read so far, together with the keys that may no longer be opened: `declared`
tables have had their header or were made by a dotted key, `frozen` ones are inline values.
-/

namespace CapsuleKit.Toml

/-- The parts of a dotted key. -/
abbrev Key := List String

/-- The entries of a table. -/
abbrev Table := List (Scalar × Value)

/-! ### Keys -/

def isBareKeyChar (c : Char) : Bool :=
  c.isAlphanum || c == '-' || c == '_'

def isKeyStart (c : Char) : Bool :=
  isBareKeyChar c || c == '"' || c == '\''

def keyPart : List Char → Result (String × List Char)
  | '\'' :: cs => literalText cs
  | '"' :: cs => basicText cs
  | cs =>
    let bare := cs.takeWhile isBareKeyChar
    if bare.isEmpty then .error .malformed
    else .ok (String.ofList bare, cs.dropWhile isBareKeyChar)

/-- The parts of a key behind the first one. -/
def keyRest : Nat → List Char → Result (Key × List Char)
  | 0, cs => .ok ([], cs)
  | fuel + 1, cs =>
    match skipSpace cs with
    | '.' :: rest => do
      let (part, rest) ← keyPart (skipSpace rest)
      let (parts, rest) ← keyRest fuel rest
      return (part :: parts, rest)
    | rest => .ok ([], rest)

/-- A key, and the rest behind it and its blanks. -/
def readKey (cs : List Char) : Result (Key × List Char) := do
  let (part, rest) ← keyPart cs
  let (parts, rest) ← keyRest rest.length rest
  return (part :: parts, rest)

/-! ### Tables -/

/-- Changes the table behind a key, which is made where it is absent. Behind a list stands its last
table, unless lists are not to be entered. -/
def change (enterLists : Bool) (f : Table → Option Table) : Key → Table → Option Table
  | [], t => f t
  | k :: ks, t =>
    match Value.field? k t with
    | none => (change enterLists f ks []).map fun inner => Value.insert t (.text k) (.map inner)
    | some (.map inner) =>
      (change enterLists f ks inner).map fun inner => Value.insert t (.text k) (.map inner)
    | some (.list items) =>
      match enterLists, items.getLast? with
      | true, some (.map inner) =>
        (change enterLists f ks inner).map fun inner =>
          Value.insert t (.text k) (.list (items.dropLast ++ [.map inner]))
      | _, _ => none
    | some _ => none

/-- Adds an entry that is not there yet. -/
def addEntry (name : String) (v : Value) (t : Table) : Option Table :=
  match Value.field? name t with
  | some _ => none
  | none => some (Value.insert t (.text name) v)

/-- Adds an empty table to the list of a name. -/
def addTable (name : String) (t : Table) : Option Table :=
  match Value.field? name t with
  | none => some (Value.insert t (.text name) (.list [.map []]))
  | some (.list items) => some (Value.insert t (.text name) (.list (items ++ [.map []])))
  | some _ => none

/-- Whether a value is a list or a table, which cannot be added to once it is written. -/
def isInline : Value → Bool
  | .scalar _ => false
  | _ => true

/-- Whether a key or a key above it is among some keys. -/
def covers (keys : List Key) (key : Key) : Bool :=
  keys.any fun k => k.isPrefixOf key

/-! ### Values -/

/-- The rest behind blanks, line feeds and comments in a list. -/
def skipInList : Nat → List Char → Result (List Char)
  | 0, cs => .ok cs
  | fuel + 1, cs =>
    match cs.dropWhile isSpaceOrNewline with
    | '#' :: rest => do skipInList fuel (← skipComment ('#' :: rest))
    | rest => .ok rest

mutual

/-- A value, and the rest. -/
def readValue : Nat → List Char → Result (Value × List Char)
  | 0, _ => .error .malformed
  | fuel + 1, cs =>
    match cs with
    | '"' :: '"' :: '"' :: rest => do
      let (s, rest) ← linesText '"' rest
      return (.text s, rest)
    | '"' :: rest => do
      let (s, rest) ← basicText rest
      return (.text s, rest)
    | '\'' :: '\'' :: '\'' :: rest => do
      let (s, rest) ← linesText '\'' rest
      return (.text s, rest)
    | '\'' :: rest => do
      let (s, rest) ← literalText rest
      return (.text s, rest)
    | 't' :: 'r' :: 'u' :: 'e' :: rest => .ok (.bool true, rest)
    | 'f' :: 'a' :: 'l' :: 's' :: 'e' :: rest => .ok (.bool false, rest)
    | '[' :: rest => do
      let (items, rest) ← readItems fuel (← skipInList rest.length rest)
      return (.list items, rest)
    | '\x7b' :: rest => do
      match skipSpace rest with
      | '\x7d' :: rest => return (.map [], rest)
      | rest =>
        let (t, rest) ← readMembers fuel [] [] rest
        return (.map t, rest)
    | _ => unquoted cs

/-- The items of a list up to its end. -/
def readItems : Nat → List Char → Result (List Value × List Char)
  | 0, _ => .error .malformed
  | fuel + 1, cs =>
    match cs with
    | ']' :: rest => .ok ([], rest)
    | _ => do
      let (v, rest) ← readValue fuel cs
      match ← skipInList rest.length rest with
      | ']' :: rest => return ([v], rest)
      | ',' :: rest =>
        let (vs, rest) ← readItems fuel (← skipInList rest.length rest)
        return (v :: vs, rest)
      | _ => .error .malformed

/-- The members of an inline table up to its end. -/
def readMembers : Nat → List Key → Table → List Char → Result (Table × List Char)
  | 0, _, _, _ => .error .malformed
  | fuel + 1, frozen, t, cs => do
    let (key, rest) ← readKey cs
    match rest with
    | '=' :: rest =>
      let (v, rest) ← readValue fuel (skipSpace rest)
      if covers frozen key then .error .malformed
      else
        match change false (addEntry (key.getLast?.getD "") v) key.dropLast t with
        | none => .error .malformed
        | some t =>
          match skipSpace rest with
          | '\x7d' :: rest => return (t, rest)
          | ',' :: rest =>
            readMembers fuel (if isInline v then key :: frozen else frozen) t (skipSpace rest)
          | _ => .error .malformed
    | _ => .error .malformed

end

/-! ### Documents -/

/-- A document as read so far. -/
structure Draft where
  table : Table := []
  header : Key := []
  /-- Tables that may not be opened by a header or a dotted key. -/
  declared : List Key := []
  /-- Tables made by dotted keys under the present header. -/
  pending : List Key := []
  /-- Inline values. -/
  frozen : List Key := []

namespace Draft

/-- The keys of the tables that a dotted key passes through. -/
def passed (header key : Key) : List Key :=
  (List.range (key.length - 1)).map fun i => header ++ key.take (i + 1)

/-- Adds a value under a key below the header. -/
def assign (d : Draft) (key : Key) (v : Value) : Option Draft :=
  let through := passed d.header key
  let parent := d.header ++ key.dropLast
  if through.any d.declared.contains || covers d.frozen parent then none
  else
    (change true (addEntry (key.getLast?.getD "") v) parent d.table).map fun t =>
      { d with
        table := t
        pending := through ++ d.pending
        frozen := if isInline v then (d.header ++ key) :: d.frozen else d.frozen }

/-- What dotted keys made may not be opened any more once a header follows. -/
def settle (d : Draft) : Draft :=
  { d with declared := d.pending ++ d.declared, pending := [] }

/-- Opens a table by its header. -/
def openTable (d : Draft) (key : Key) : Option Draft :=
  if d.declared.contains key || covers d.frozen key then none
  else
    (change true some key d.table).map fun t =>
      { d with table := t, header := key, declared := key :: d.declared }

/-- Opens a new table of an array; all that was declared below the earlier one is free again. -/
def openArrayTable (d : Draft) (key : Key) : Option Draft :=
  if covers d.frozen key then none
  else
    (change true (addTable (key.getLast?.getD "")) key.dropLast d.table).map fun t =>
      { d with
        table := t
        header := key
        declared := key :: d.declared.filter (!key.isPrefixOf ·)
        frozen := d.frozen.filter (!key.isPrefixOf ·) }

/-- A header in its brackets. -/
def readHeader (d : Draft) (cs : List Char) : Result (Draft × List Char) :=
  match cs with
  | '[' :: rest => do
    let (key, rest) ← readKey (skipSpace rest)
    match d.settle.openArrayTable key, rest with
    | some d, ']' :: ']' :: rest => return (d, rest)
    | _, _ => .error .malformed
  | _ => do
    let (key, rest) ← readKey (skipSpace cs)
    match d.settle.openTable key, rest with
    | some d, ']' :: rest => return (d, rest)
    | _, _ => .error .malformed

/-- A line with a key and a value. -/
def readLine (d : Draft) (cs : List Char) : Result (Draft × List Char) := do
  let (key, rest) ← readKey cs
  match rest with
  | '=' :: rest =>
    let rest := skipSpace rest
    let (v, rest) ← readValue (rest.length + 1) rest
    match d.assign key v with
    | some d => return (d, rest)
    | none => .error .malformed
  | _ => .error .malformed

/-- One statement, if there is one on the line. -/
def readStatement (d : Draft) (cs : List Char) : Result (Draft × List Char) :=
  match cs with
  | '[' :: rest => readHeader d rest
  | c :: _ =>
    if isKeyStart c then readLine d cs
    else if c = '#' then .ok (d, cs)
    else .error .malformed
  | [] => .ok (d, [])

/-- All lines of a document. -/
def readLines : Nat → Draft → List Char → Result Draft
  | 0, d, _ => .ok d
  | fuel + 1, d, cs =>
    match skipSpace cs with
    | [] => .ok d
    | '\n' :: rest => readLines fuel d rest
    | rest => do
      let (d, rest) ← readStatement d rest
      match ← skipComment (skipSpace rest) with
      | [] => return d
      | '\n' :: rest => readLines fuel d rest
      | _ => .error .malformed

end Draft

/-- Reads a document with line feeds as its only line ends. -/
def read (s : String) : Result Value := do
  let d ← Draft.readLines (s.length + 1) {} s.toList
  return .map d.table

end CapsuleKit.Toml

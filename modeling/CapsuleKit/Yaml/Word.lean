import CapsuleKit.Number.Reading
import CapsuleKit.Yaml.Cursor

/-!
# Anchors, tags and directives

The words of a YAML text that are not content: anchors and aliases, tags with their handles, and
directives in front of a document.
-/

namespace CapsuleKit.Yaml

inductive Directive where
  | version (major : Nat)
  | tag (handle start : String)
  | other

/-- A tag as written: a handle, if it has one, and what follows it. -/
structure TagText where
  handle : Option String
  suffix : String

namespace Cursor

/-- The name of an anchor or alias after its mark. -/
def anchorName (c : Cursor) : Result (String × Cursor) :=
  let (name, c) := c.takeWhile isWordChar
  if name.isEmpty then .error .malformed
  else if isBlankOrEnd c.peek || "?:,]\x7d%@`".toList.contains c.peek then
    .ok (String.ofList name, c)
  else .error .malformed

/-- The characters of the address of a tag. -/
def isUriChar (ch : Char) : Bool :=
  ch.isAlphanum || "-;/?:@&=+$,_.!~*'()[]%".toList.contains ch

/-- Bytes that stand as two digits behind a percent sign each. -/
def escapedBytes : Nat → Cursor → Result (List UInt8 × Cursor)
  | 0, c => .ok ([], c)
  | fuel + 1, c =>
    if c.peek = '%' then
      match Text.readHex? [c.peekAt 1, c.peekAt 2] with
      | none => .error .malformed
      | some n => do
        let (bytes, c) ← escapedBytes fuel (c.skip 3)
        return (UInt8.ofNat n :: bytes, c)
    else .ok ([], c)

/-- The address of a tag. -/
def tagUri : Nat → Cursor → Result (List Char × Cursor)
  | 0, c => .ok ([], c)
  | fuel + 1, c =>
    if !isUriChar c.peek then .ok ([], c)
    else if c.peek = '%' then do
      let (bytes, c) ← escapedBytes c.rest.length c
      match String.fromUTF8? (ByteArray.mk bytes.toArray) with
      | none => .error .malformed
      | some s =>
        let (more, c) ← tagUri fuel c
        return (s.toList ++ more, c)
    else do
      let (more, d) ← tagUri fuel c.next
      return (c.peek :: more, d)

/-- An address of at least one character. -/
def someUri (c : Cursor) : Result (String × Cursor) := do
  let (uri, d) ← c.tagUri c.rest.length
  if d.index = c.index then .error .malformed else return (String.ofList uri, d)

/-- A tag handle: `!`, or a word between two of them. -/
def tagHandle (c : Cursor) : Result (String × Cursor) :=
  if c.peek ≠ '!' then .error .malformed
  else if c.peekAt 1 = ' ' then .ok ("!", c.next)
  else
    let (word, d) := c.next.takeWhile isWordChar
    if d.peek = '!' then .ok ("!" ++ String.ofList word ++ "!", d.next) else .error .malformed

/-- Whether a second mark follows before the next space, so that the tag has a handle. -/
def hasHandle (c : Cursor) : Bool :=
  ((c.rest.drop 1).takeWhile (!isSpaceBreakOrEnd ·)).contains '!'

/-- A tag. -/
def tagText (c : Cursor) : Result (TagText × Cursor) := do
  let (tag, c) ←
    if c.peekAt 1 = '<' then do
      let (uri, c) ← (c.skip 2).someUri
      if c.peek = '>' then pure (TagText.mk none uri, c.next) else .error .malformed
    else if isBlankOrEnd (c.peekAt 1) then pure (TagText.mk none "!", c.next)
    else do
      let (handle, c) ← if c.hasHandle then c.tagHandle else pure ("!", c.next)
      let (uri, c) ← c.someUri
      pure (TagText.mk (some handle) uri, c)
  if isSpaceBreakOrEnd c.peek then return (tag, c) else .error .malformed

/-- The digits of a version number. -/
def versionNumber (c : Cursor) : Result (Nat × Cursor) :=
  let (ds, c) := c.takeWhile Char.isDigit
  if ds.isEmpty then .error .malformed
  else if Number.digitLimit < ds.length then .error (.badValue (Number.tooManyDigits ds.length))
  else .ok (Number.ofDigits ds, c)

/-- The version of the format that a document names. -/
def versionDirective (c : Cursor) : Result (Directive × Cursor) := do
  let (major, c) ← c.skipSpaces.versionNumber
  if c.peek ≠ '.' then .error .malformed
  else
    let (_, c) ← c.next.versionNumber
    if isSpaceBreakOrEnd c.peek then return (.version major, c) else .error .malformed

/-- A handle and what it stands for. -/
def tagDirective (c : Cursor) : Result (Directive × Cursor) := do
  let (handle, c) ← c.skipSpaces.tagHandle
  if c.peek ≠ ' ' then .error .malformed
  else
    let (uri, c) ← c.skipSpaces.someUri
    if isSpaceBreakOrEnd c.peek then return (.tag handle uri, c) else .error .malformed

/-- A directive with its line. -/
def directive (c : Cursor) : Result (Directive × Cursor) := do
  let (name, c) := c.next.takeWhile isWordChar
  if name.isEmpty || !isSpaceBreakOrEnd c.peek then .error .malformed
  else
    let (d, c) ←
      if name = "YAML".toList then c.versionDirective
      else if name = "TAG".toList then c.tagDirective
      else pure (.other, c.skipWhile (!isBreakOrEnd ·))
    return (d, ← c.skipIgnoredLine)

end Cursor

end CapsuleKit.Yaml

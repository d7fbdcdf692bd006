import CapsuleKit.Console.Layout
import CapsuleKit.Console.Literal
import CapsuleKit.Console.Style

/-!
# Markup

Printed texts may hold tags in square brackets, such as `[bold]` and `[/bold]`, which give a style
to the text between them, or an action, such as `[@click=open(1)]`. Here styles are not shown, so
that tags only vanish; a closing tag still has to match an open one. A backslash in front keeps a
tag as text. `Marked.ofText` reads a text with markup, and `printLine` lays it out.
-/

namespace CapsuleKit.Console

/-- What is wrong with markup: a closing tag without an open one, an action whose parameters are no
literal, or a colour that lacks a number. -/
inductive MarkupError where
  | unmatched (tag : String)
  | action (parameters : String)
  | color
  deriving DecidableEq

/-- A piece of a text with markup. -/
inductive Piece where
  | text (cs : List Char)
  | opening (name : List Char) (parameters : Option (List Char))
  | closing (name : List Char)
  deriving DecidableEq

/-- The characters that a tag may start with. -/
def startsTag (c : Char) : Bool :=
  c.isLower || c == '#' || c == '/' || c == '@'

/-- The inside of a tag behind its opening bracket, and what follows it. -/
def tagBody? (cs : List Char) : Option (List Char × List Char) :=
  let body := cs.takeWhile fun c => c != ']' && c != '['
  match body, cs.drop body.length with
  | c :: _, ']' :: rest => if startsTag c then some (body, rest) else none
  | _, _ => none

/-- The name of a tag ends where its parameters start. -/
def tagPiece (body : List Char) : Piece :=
  match body.takeWhile (· != '='), body.dropWhile (· != '=') with
  | '/' :: name, _ => .closing (Text.trimBoth Text.isBlank name)
  | name, _ :: parameters => .opening name (some parameters)
  | name, [] => .opening name none

/-- A backslash in front of a bracket that belongs to no tag vanishes. -/
def unescaped : List Char → List Char
  | '\\' :: '[' :: cs => '[' :: unescaped cs
  | c :: cs => c :: unescaped cs
  | [] => []

/-- Plain text that was collected, the last character first. -/
def plainPiece (done : List Char) : List Piece :=
  if done.isEmpty then [] else [.text (unescaped done.reverse)]

/-- The pieces of a text; `done` is the plain text in front, the last character first. Of the
backslashes in front of a tag every two stand for one, and an odd one keeps the tag. -/
def piecesFrom : Nat → List Char → List Char → List Piece
  | 0, done, _ => plainPiece done
  | fuel + 1, done, cs =>
    let slashes := cs.takeWhile (· == '\\')
    match cs.drop slashes.length with
    | [] => plainPiece (slashes ++ done)
    | '[' :: rest =>
      match tagBody? rest with
      | none => piecesFrom fuel ('[' :: (slashes ++ done)) rest
      | some (body, after) =>
        let tag := if slashes.length % 2 = 1 then .text ('[' :: body ++ [']']) else tagPiece body
        plainPiece done ++
          .text (slashes.take (slashes.length / 2)) :: tag :: piecesFrom fuel [] after
    | c :: rest => piecesFrom fuel (c :: (slashes ++ done)) rest

def pieces (s : String) : List Piece :=
  piecesFrom (s.length + 1) [] s.toList

/-! ### Text -/

/-- Control characters that are not printed. -/
def isDropped (c : Char) : Bool :=
  [7, 8, 11, 12, 13].contains c.toNat

/-- A tag that is open, with the place where its text starts. -/
structure OpenTag where
  name : String
  parameters : Option (List Char)
  start : Nat

namespace OpenTag

def isAction (t : OpenTag) : Bool :=
  t.name.startsWith "@"

/-- The words that describe the style of the tag. -/
def words (t : OpenTag) : List String :=
  blankWords (t.name.toList ++ t.parameters.elim [] (' ' :: ·))

/-- The parameters of an action are read when its tag is closed. -/
def close (t : OpenTag) : Except MarkupError Unit :=
  if t.isAction && !isActionCall (t.parameters.getD []) then
    .error (.action (String.ofList (t.parameters.getD [])))
  else .ok ()

end OpenTag

/-- A style from one place of a text up to another. -/
structure Span where
  words : List String
  start : Nat
  stop : Nat

/-- A text that has been read, with the styles of its parts. -/
structure Marked where
  text : List Char
  spans : List Span

/-- A tag closed at a place. An action has no style. -/
def OpenTag.span (t : OpenTag) (stop : Nat) : List Span :=
  if t.isAction then [] else [⟨t.words, t.start, stop⟩]

/-- The text of pieces from a place on. `opened` holds the open tags, the last one first; they reach
up to the end of the text if nothing closes them. -/
def markedFrom (place : Nat) (opened : List OpenTag) : List Piece → Except MarkupError Marked
  | [] => .ok ⟨[], opened.flatMap (·.span place)⟩
  | .text cs :: ps => do
    let cs := cs.filter (!isDropped ·)
    let rest ← markedFrom (place + cs.length) opened ps
    return { rest with text := cs ++ rest.text }
  | .opening name parameters :: ps => do
    let name ← (styleName name).mapError fun _ => .color
    markedFrom place (⟨name, parameters, place⟩ :: opened) ps
  | .closing [] :: ps =>
    match opened with
    | t :: opened => do
      t.close
      let rest ← markedFrom place opened ps
      return { rest with spans := t.span place ++ rest.spans }
    | [] => .error (.unmatched "/")
  | .closing tag :: ps => do
    let name ← (styleName tag).mapError fun _ => .color
    match opened.find? (·.name == name) with
    | some t => do
      t.close
      let rest ← markedFrom place (opened.eraseP (·.name == name)) ps
      return { rest with spans := t.span place ++ rest.spans }
    | none => .error (.unmatched (String.ofList ('/' :: tag)))

namespace Marked

/-- Reads a text with markup. -/
def ofText (s : String) : Except MarkupError Marked :=
  markedFrom 0 [] (pieces s)

/-- Whether a style is looked at: it reaches over something in a line, or there is one line only. -/
def shows (m : Marked) (s : Span) : Bool :=
  !(m.text.contains '\n' || m.text.contains '\t') ||
    ((m.text.drop s.start).take (s.stop - s.start)).any (· != '\n')

/-- The styles of a text are read when it is printed. -/
def check (m : Marked) : Except MarkupError Unit :=
  if m.spans.any fun s => m.shows s && ((Style.ofWords s.words {}) matches .error .lacking) then
    .error .color
  else .ok ()

end Marked

/-- How wide the console is. -/
def consoleWidth : Nat := 5000

/-- Lines as they are printed. -/
def printLine (s : String) : Except MarkupError String := do
  let m ← Marked.ofText s
  m.check
  return String.ofList (List.intercalate ['\n'] (laidOut consoleWidth .fold m.text)) ++ "\n"

end CapsuleKit.Console

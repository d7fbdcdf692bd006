import CapsuleKit.Text.Width
import CapsuleKit.Text.Words

/-!
# Layout of text

Text is laid out in lines of a limited width. `laidOut` gives the lines of a text: tabs become
spaces, lines are broken between words, and what is still too wide is folded or cut. `Justify.fill`
moves a line to a side of the space that it has.
-/

namespace CapsuleKit.Console

/-- What becomes of a word that is wider than a line: it goes on in the next line, or it is cut and
ends with three points. -/
inductive Overflow where
  | fold
  | ellipsis
  deriving DecidableEq

/-- Tab stops stand at every eighth column. -/
def tabSize : Nat := 8

/-- Pieces between tabs, with spaces behind each piece up to the next tab stop. -/
def joinTabs (column : Nat) : List (List Char) → List Char
  | [] => []
  | [piece] => piece
  | piece :: next :: pieces =>
    let stop := column + Text.width (piece ++ [' '])
    let more := (tabSize - stop % tabSize) % tabSize
    piece ++ ' ' :: List.replicate more ' ' ++ joinTabs (stop + more) (next :: pieces)

/-- A line with spaces in the place of tabs. -/
def withoutTabs (line : List Char) : List Char :=
  joinTabs 0 (List.splitOnP (· == '\t') line)

/-! ### Words -/

/-- A line cut wherever a word starts behind blanks. -/
def cutAtWords : List Char → List (List Char)
  | [] => []
  | c :: cs =>
    match cutAtWords cs with
    | [] => [[c]]
    | w :: ws =>
      if Text.isBlank c && !w.head?.any Text.isBlank then [c] :: w :: ws else (c :: w) :: ws

/-- The words of a line, each with the blanks behind it; the first one also has those in front. -/
def lineWords (line : List Char) : List (List Char) :=
  match cutAtWords line with
  | w :: v :: ws => if w.all Text.isBlank then (w ++ v) :: ws else w :: v :: ws
  | ws => ws

/-- A line without the blanks at its end. -/
def trimEnd (line : List Char) : List Char :=
  line.take (line.length - (line.reverse.takeWhile Text.isBlank).length)

/-- Pieces of a word that fit into a width; `done` is the piece that is being filled, the last
character first, and `used` its width. -/
def chop (width : Nat) (done : List Char) (used : Nat) : List Char → List (List Char)
  | [] => [done.reverse]
  | c :: cs =>
    if width < used + Text.charWidth c then
      done.reverse :: chop width [c] (Text.charWidth c) cs
    else chop width (c :: done) (used + Text.charWidth c) cs

/-- Words put into lines one after the other. `line` is the line that is being filled, and `used`
says how much of it is taken; the blanks behind a word need not fit. -/
def fillLines (width : Nat) (o : Overflow) (line : List Char) (used : Nat) :
    List (List Char) → List (List Char)
  | [] => [line]
  | word :: words =>
    let needed := Text.width (trimEnd word)
    let full := if line.isEmpty then [] else [line]
    if used + needed ≤ width then
      fillLines width o (line ++ word) (used + Text.width word) words
    else if needed ≤ width then
      full ++ fillLines width o word (Text.width word) words
    else
      match o with
      | .ellipsis => full ++ fillLines width o word (Text.width word) words
      | .fold =>
        let pieces := chop width [] 0 word
        let last := pieces.getLast?.getD []
        full ++ pieces.dropLast ++ fillLines width o last (Text.width last) words

/-- A line that is longer than a width loses as many of its last blanks as it is too long. -/
def trimExcess (width : Nat) (line : List Char) : List Char :=
  let excess := line.length - width
  line.take (line.length - min excess (line.length - (trimEnd line).length))

/-! ### Lines that fit -/

/-- As much of a line as fits into a width. -/
def takeWidth (width : Nat) : List Char → List Char
  | [] => []
  | c :: cs =>
    if Text.charWidth c ≤ width then c :: takeWidth (width - Text.charWidth c) cs else []

/-- A line with spaces behind it up to a width. -/
def padEnd (width : Nat) (line : List Char) : List Char :=
  line ++ List.replicate (width - Text.width line) ' '

/-- A line that is cut to a width if it is wider. -/
def Overflow.cut (o : Overflow) (width : Nat) (line : List Char) : List Char :=
  if Text.width line ≤ width then line
  else
    match o with
    | .fold => padEnd width (takeWidth width line)
    | .ellipsis => padEnd (width - 1) (takeWidth (width - 1) line) ++ ['…']

/-- The lines that a line is broken into. -/
def wrapped (width : Nat) (o : Overflow) (line : List Char) : List (List Char) :=
  (fillLines width o [] 0 (lineWords (withoutTabs line))).map (trimExcess width)

/-- The lines of a text in a width. -/
def laidOut (width : Nat) (o : Overflow) (cs : List Char) : List (List Char) :=
  ((List.splitOnP (· == '\n') cs).flatMap (wrapped width o)).map (o.cut width)

/-- Where a line stands in the space that it has. -/
inductive Justify where
  | left
  | right
  | center

/-- A line that fills a width. Only a line on the left keeps the blanks at its end. -/
def Justify.fill (j : Justify) (o : Overflow) (width : Nat) (line : List Char) : List Char :=
  match j with
  | .left => padEnd width (o.cut width line)
  | .right =>
    let line := o.cut width (trimEnd line)
    List.replicate (width - Text.width line) ' ' ++ line
  | .center =>
    let line := o.cut width (trimEnd line)
    padEnd width (List.replicate ((width - Text.width line) / 2) ' ' ++ line)

/-- The lines of a text, each of which fills a width. -/
def justified (j : Justify) (o : Overflow) (width : Nat) (cs : List Char) : List (List Char) :=
  ((List.splitOnP (· == '\n') cs).flatMap (wrapped width o)).map (j.fill o width)

end CapsuleKit.Console

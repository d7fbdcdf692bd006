import CapsuleKit.Console.Markup

/-!
# Tables

A table with a title, a heavy frame around its heads and a light one around its rows. A column is as
wide as its widest line; a table that does not fit into the console loses the excess in its widest
columns.
-/

namespace CapsuleKit.Console

structure Column where
  head : String
  justify : Justify := .left

structure Table where
  title : String
  columns : List Column
  rows : List (List String)

/-! ### Widths -/

/-- The characters that end a line when a cell is measured. -/
def endsMeasuredLine (c : Char) : Bool :=
  c == '\n' || (0x1C ≤ c.toNat && c.toNat ≤ 0x1E) || c.toNat == 0x85 || c == '\u2028' ||
    c == '\u2029'

/-- The width of the widest line of a text. -/
def textWidth (cs : List Char) : Nat :=
  (List.splitOnP endsMeasuredLine cs).foldl (fun w line => max w (Text.width line)) 0

/-- A quotient rounded to the nearest number, and to the even one of two. -/
def roundQuotient (n d : Nat) : Nat :=
  let q := n / d
  let twice := 2 * (n % d)
  if twice < d then q else if d < twice then q + 1 else q + q % 2

/-- Takes away from all widths equal to the largest, as evenly as it goes and `limit` at most.
`total` is still to be taken, and `count` widths are still to come. -/
def takeFromWidest (widest limit : Nat) : (total count : Nat) → List Nat → List Nat
  | _, _, [] => []
  | total, count, w :: ws =>
    if w = widest then
      let part := min limit (roundQuotient total count)
      (w - part) :: takeFromWidest widest limit (total - part) (count - 1) ws
    else w :: takeFromWidest widest limit total count ws

def largest (ws : List Nat) : Nat :=
  ws.foldl max 0

/-- Widths made smaller until they fit: the largest ones shrink down to the next smaller one. Every
step takes away something, so that as many steps are enough as there is excess. -/
def collapse (space : Nat) : (steps : Nat) → List Nat → List Nat
  | 0, ws => ws
  | steps + 1, ws =>
    if ws.foldl (· + ·) 0 ≤ space then ws
    else
      let widest := largest ws
      let next := largest (ws.filter (· ≠ widest))
      let excess := ws.foldl (· + ·) 0 - space
      collapse space steps
        (takeFromWidest widest (min excess (widest - next)) excess (ws.count widest) ws)

/-- The widths of the columns with a space on each side, so that they fit with the bars into the
console. -/
def columnWidths (natural : List Nat) : List Nat :=
  let space := consoleWidth - (natural.length + 1)
  let ws := natural.map fun w => min (w + 2) space
  collapse space (ws.foldl (· + ·) 0 - space) ws

/-! ### Drawing -/

/-- The characters that a frame is drawn with. -/
structure Rule where
  left : Char
  line : Char
  cross : Char
  right : Char

def Rule.top : Rule := ⟨'┏', '━', '┳', '┓'⟩
def Rule.belowHead : Rule := ⟨'┡', '━', '╇', '┩'⟩
def Rule.bottom : Rule := ⟨'└', '─', '┴', '┘'⟩

/-- A line of a frame over columns of given widths. -/
def Rule.draw (r : Rule) (widths : List Nat) : List Char :=
  r.left :: List.intercalate [r.cross] (widths.map fun w => List.replicate w r.line) ++ [r.right]

/-- A line of a row: the cells between bars. -/
def rowLine (bar : Char) (cells : List (List Char)) : List Char :=
  bar :: List.intercalate [bar] (cells.map fun c => ' ' :: c ++ [' ']) ++ [bar]

/-- The lines of a row, as many as its highest cell has. -/
def rowLines (bar : Char) (layout : List (Justify × Nat)) (cells : List (List Char)) :
    List (List Char) :=
  let blocks := (layout.zip cells).map fun p =>
    (p.1.2 - 2, justified p.1.1 .ellipsis (p.1.2 - 2) p.2)
  let height := blocks.foldl (fun h b => max h b.2.length) 1
  (List.range height).map fun i =>
    rowLine bar (blocks.map fun b => b.2.getD i (List.replicate b.1 ' '))

namespace Table

/-- The cells of the table column by column, the head of each column first. -/
def cells (t : Table) : List (List String) :=
  t.columns.zipIdx.map fun p => p.1.head :: t.rows.map (·.getD p.2 "")

/-- The table as text, a line at a time. All cells are read before the styles of any are looked at,
which goes row by row. -/
def lines (t : Table) : Except MarkupError (List (List Char)) := do
  let title ← Marked.ofText t.title
  let columns ← t.cells.mapM (·.mapM Marked.ofText)
  let row := fun i => columns.map (·.getD i ⟨[], []⟩)
  let rows := (List.range t.rows.length).map fun i => row (i + 1)
  let _ ← (row 0 :: rows).mapM (·.mapM Marked.check)
  let ws := columnWidths (columns.map fun c => largest (c.map (textWidth ·.text)))
  let layout := (t.columns.map (·.justify)).zip ws
  let top := Rule.top.draw ws
  let draw := fun bar (cells : List Marked) => rowLines bar layout (cells.map (·.text))
  return justified .center .fold top.length title.text ++ top :: draw '┃' (row 0) ++
    Rule.belowHead.draw ws :: rows.flatMap (draw '│') ++ [Rule.bottom.draw ws]

/-- The table as text. -/
def text (t : Table) : Except MarkupError String := do
  return String.ofList ((← t.lines).flatMap (· ++ ['\n']))

end Table

end CapsuleKit.Console

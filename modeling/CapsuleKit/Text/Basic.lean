/-!
# Texts and their parts

Putting a text together from lines (`lines`, `joinLines`, `spaces`), the blank characters that
separate words and are trimmed from its ends (`isBlank`, `strip`), and cutting it at one occurrence of
a mark, which is dropped (`cutAtFirst`, `cutAtLast`).
-/

namespace CapsuleKit.Text

/-! ### Lines -/

/-- Lines of text, each ended by a line feed. -/
def lines (ls : List String) : String :=
  String.join (ls.map (· ++ "\n"))

/-- Lines of text with a line feed between two of them. -/
def joinLines (ls : List String) : String :=
  String.intercalate "\n" ls

/-- As many spaces. -/
def spaces (n : Nat) : String :=
  String.ofList (List.replicate n ' ')

/-- A text, or another one in its place when it is empty. -/
def nonEmptyOr (s other : String) : String :=
  if s.isEmpty then other else s

/-! ### Blank characters -/

/-- Tabs, line ends, the information separators, and every Unicode space and line separator. -/
def isBlank (c : Char) : Bool :=
  let n := c.toNat
  decide (9 ≤ n ∧ n ≤ 13) || decide (28 ≤ n ∧ n ≤ 32) || n == 0x85 || n == 0xA0 || n == 0x1680 ||
    decide (0x2000 ≤ n ∧ n ≤ 0x200A) || n == 0x2028 || n == 0x2029 || n == 0x202F ||
    n == 0x205F || n == 0x3000

/-- Removes the characters of a class from the end. -/
def dropRightWhile (p : Char → Bool) (cs : List Char) : List Char :=
  (cs.reverse.dropWhile p).reverse

/-- Removes the characters of a class from both ends. -/
def trimBoth (p : Char → Bool) (cs : List Char) : List Char :=
  dropRightWhile p (cs.dropWhile p)

/-- Removes blank characters from both ends. -/
def strip (s : String) : String :=
  String.ofList (trimBoth isBlank s.toList)

/-! ### Cuts -/

/-- What stands before the first mark and after it, if there is one. -/
def cutAtFirst (mark : Char) : List Char → Option (List Char × List Char)
  | [] => none
  | c :: cs =>
    if c = mark then some ([], cs) else (cutAtFirst mark cs).map fun p => (c :: p.1, p.2)

/-- What stands before the last mark and after it, if there is one. -/
def cutAtLast (mark : Char) : List Char → Option (List Char × List Char)
  | [] => none
  | c :: cs =>
    match cutAtLast mark cs with
    | some (a, b) => some (c :: a, b)
    | none => if c = mark then some ([], cs) else none

end CapsuleKit.Text

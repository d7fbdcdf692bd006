import CapsuleKit.Document.Value
import CapsuleKit.Text.Display

/-!
# Values as text in messages and templates

`Value.plain` is the text that stands for a value in running text: a text is itself, numbers are
written in full, and lists and maps show their members, in which texts stand in quotes.
-/

namespace CapsuleKit

/-- A scalar inside a list or a map. -/
def Scalar.shown : Scalar → String
  | .null => "None"
  | .bool b => if b then "True" else "False"
  | .int n => intText n
  | .float x => x.text
  | .text s => Text.display s
  | .moment m => m.shown
  | .bytes data => Text.displayBytes data

namespace Value

mutual
/-- A value inside a list or a map. -/
def shown : Value → String
  | .scalar s => s.shown
  | .list items => "[" ++ String.intercalate ", " (shownItems items) ++ "]"
  | .map entries => "\x7b" ++ String.intercalate ", " (shownEntries entries) ++ "\x7d"
  | .set [] => "set()"
  | .set members => "\x7b" ++ String.intercalate ", " (members.map Scalar.shown) ++ "\x7d"
  | .again (.list _) => "[...]"
  | .again _ => "\x7b...\x7d"

def shownItems : List Value → List String
  | [] => []
  | v :: vs => v.shown :: shownItems vs

def shownEntries : List (Scalar × Value) → List String
  | [] => []
  | (k, v) :: es => (k.shown ++ ": " ++ v.shown) :: shownEntries es
end

/-- A value in running text. -/
def plain : Value → String
  | .text s => s
  | .moment m => m.plain
  | v => v.shown

end Value

end CapsuleKit

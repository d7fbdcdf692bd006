import CapsuleKit.Yaml.Builder
import CapsuleKit.Yaml.Token.Lexer

/-!
# Reading YAML documents

`Yaml.read` gives the value of a text with a single document. A collection that stands inside itself
is written out once more where it comes up again, and ends there.
-/

namespace CapsuleKit.Yaml

/-- The collection without members of the same kind. -/
def Content.without : Content → Value
  | .list _ | .pairs _ => .list []
  | .map _ => .map []
  | .set _ => .set []

namespace Builder

/-- The members of a collection as values, by what their values are. -/
def contentValue (value : Built → Value) : Content → Value
  | .list items => .list (items.map value)
  | .pairs items => .list (items.map fun p => .list [value p.1, value p.2])
  | .map entries => .map (entries.map fun e => (e.1.value, value e.2))
  | .set members => .set (members.map (·.value))

/-- The value of what was built; `around` are the collections that it stands in. -/
def value (b : Builder) : Nat → List Nat → Built → Value
  | _, _, .scalar a => .scalar a.value
  | 0, _, .collection _ => .null
  | fuel + 1, around, .collection n =>
    let content := b.contents.getD n (.list [])
    match around.count n with
    | 0 => contentValue (b.value fuel (n :: around)) content
    | 1 => .again (contentValue (b.value fuel (n :: around)) content)
    | _ => .again content.without

end Builder

/-- The value of the document that a text writes. -/
def read (s : String) : Result Value := do
  let document ← Graph.ofTokens (Token.scan s)
  let (x, b) ← (Builder.start document.graph).build document.root
  let b ← b.finish (document.graph.size + 1)
  return b.value (2 * document.graph.size + 2) [] x

end CapsuleKit.Yaml

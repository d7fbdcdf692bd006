import CapsuleKit.Yaml.Graph
import CapsuleKit.Yaml.Scalar

/-!
# Building values from nodes

A builder makes one thing of every node: a scalar at once, a collection first without its members.
Collections wait until the members of all earlier ones are made, so members are made level by level
and a collection may be a member of itself. The first thing that cannot be made is the fault of the
whole document.
-/

namespace CapsuleKit.Yaml

/-- A scalar that was built. Values that are no number differ from each other; `mark` tells which
are the same. -/
structure Atom where
  value : Scalar
  mark : Nat := 0

/-- Whether two scalars name the same entry of a mapping. -/
def Atom.sameKey (a b : Atom) : Bool :=
  a.value.sameKey b.value ||
    (a.value == .float Binary64.nan && b.value == .float Binary64.nan && a.mark == b.mark)

/-- What a node is built as: a scalar, or the collection with the number of the node. -/
inductive Built where
  | scalar (a : Atom)
  | collection (n : Nat)

/-- The members of a collection. -/
inductive Content where
  | list (items : List Built)
  | pairs (items : List (Built × Built))
  | map (entries : List (Atom × Built))
  | set (members : List Atom)

/-- Puts an entry into a map: a key that is there keeps its place and gets the new value. -/
def putEntry (key : Atom) (value : Built) : List (Atom × Built) → List (Atom × Built)
  | [] => [(key, value)]
  | e :: es => if e.1.sameKey key then (e.1, value) :: es else e :: putEntry key value es

namespace Graph

/-- The text of a scalar, or of the entry of a mapping that stands for it: the first one under the
key `=`. -/
def text (g : Graph) : Nat → Nat → Result String
  | 0, _ => .error .endless
  | fuel + 1, n =>
    match g.node n with
    | .scalar _ s => .ok s
    | .sequence .. => .error .malformed
    | .mapping _ entries =>
      match entries.find? fun e => (g.node e.1).tag == .default with
      | some e => g.text fuel e.2
      | none => .error .malformed

/-- The scalar that a node is read as. -/
def scalar (g : Graph) (n : Nat) : Result Atom := do
  let node := g.node n
  let s ← g.text (g.size + 1) n
  if node.tag = .timestamp ∧ node.isMapping then .error .notText
  else
    let mark := if node.tag = .float ∧ !Tag.isNanName s then n + 1 else 0
    return ⟨← node.tag.scalar s, mark⟩

mutual

/-- Takes over the entries of other mappings into the mapping with a number, in front of its own. A
key `=` that stands in a mapping is a text from then on. -/
def flatten : Nat → Nat → Graph → Result Graph
  | 0, _, _ => .error .endless
  | fuel + 1, n, g => do
    let (taken, g) ← takeOver fuel n 0 g
    if taken.isEmpty then return g
    else return g.put n (.mapping (g.node n).tag (taken ++ g.entries n))

/-- Goes through the entries of a mapping from a position on and takes out those that name other
mappings. -/
def takeOver : Nat → Nat → Nat → Graph → Result (List (Nat × Nat) × Graph)
  | 0, _, _, _ => .error .endless
  | fuel + 1, n, i, g =>
    let entries := g.entries n
    match entries[i]? with
    | none => .ok ([], g)
    | some (k, v) =>
      match (g.node k).tag with
      | .merge => do
        let g := g.put n (.mapping (g.node n).tag (entries.eraseIdx i))
        let (taken, g) ← merged fuel v g
        let (more, g) ← takeOver fuel n i g
        return (taken ++ more, g)
      | .default => takeOver fuel n (i + 1) (g.put k ((g.node k).retag .text))
      | _ => takeOver fuel n (i + 1) g

/-- The entries of the mappings that a node names: of one, or of several. -/
def merged : Nat → Nat → Graph → Result (List (Nat × Nat) × Graph)
  | 0, _, _ => .error .endless
  | fuel + 1, n, g =>
    match g.node n with
    | .mapping .. => do
      let g ← flatten fuel n g
      return (g.entries n, g)
    | .sequence _ items => mergedAll fuel items g
    | .scalar .. => .error .malformed

/-- The entries of several mappings, the last mapping first. -/
def mergedAll : Nat → List Nat → Graph → Result (List (Nat × Nat) × Graph)
  | 0, _, _ => .error .endless
  | _ + 1, [], g => .ok ([], g)
  | fuel + 1, n :: ns, g =>
    if (g.node n).isMapping then do
      let g ← flatten fuel n g
      let own := g.entries n
      let (later, g) ← mergedAll fuel ns g
      return (later ++ own, g)
    else .error .malformed

end

end Graph

/-- A graph with what its nodes are built as, the members of collections, and the collections that
wait for theirs, the last one first. -/
structure Builder where
  graph : Graph
  built : Array (Option Built)
  contents : Array Content
  waiting : List Nat := []

namespace Builder

def start (g : Graph) : Builder where
  graph := g
  built := Array.replicate g.size none
  contents := Array.replicate g.size (.list [])

/-- Remembers what a node is built as. -/
def record (b : Builder) (n : Nat) (x : Built) : Builder :=
  { b with built := b.built.setIfInBounds n (some x) }

/-- What a node is built as, once and for all. -/
def build (b : Builder) (n : Nat) : Result (Built × Builder) :=
  match b.built.getD n none with
  | some x => .ok (x, b)
  | none =>
    match (b.graph.node n).tag with
    | .sequence | .mapping | .set | .pairs =>
      let x := Built.collection n
      .ok (x, { b.record n x with waiting := n :: b.waiting })
    | .merge | .default | .unknown => .error .malformed
    | _ => do
      let x := Built.scalar (← b.graph.scalar n)
      return (x, b.record n x)

/-- What several nodes are built as. -/
def buildAll (b : Builder) : List Nat → Result (List Built × Builder)
  | [] => .ok ([], b)
  | n :: ns => do
    let (x, b) ← b.build n
    let (xs, b) ← b.buildAll ns
    return (x :: xs, b)

/-- Pairs, each written as a mapping of one entry. -/
def buildPairs (b : Builder) : List Nat → Result (List (Built × Built) × Builder)
  | [] => .ok ([], b)
  | n :: ns =>
    match b.graph.node n with
    | .mapping _ [(k, v)] => do
      let (x, b) ← b.build k
      let (y, b) ← b.build v
      let (ps, b) ← b.buildPairs ns
      return ((x, y) :: ps, b)
    | _ => .error .malformed

/-- The entries of a map, whose keys have to be scalars. -/
def buildEntries (b : Builder) (done : List (Atom × Built)) :
    List (Nat × Nat) → Result (List (Atom × Built) × Builder)
  | [] => .ok (done, b)
  | (k, v) :: es => do
    let (x, b) ← b.build k
    match x with
    | .collection _ => .error .malformed
    | .scalar key =>
      let (y, b) ← b.build v
      b.buildEntries (putEntry key y done) es

/-- The entries of a mapping with those that it takes over. -/
def buildMapping (b : Builder) (n : Nat) : Result (List (Atom × Built) × Builder) := do
  if (b.graph.node n).isMapping then
    let g ← b.graph.flatten (Nat.pow (b.graph.size + 2) 3) n
    { b with graph := g }.buildEntries [] (g.entries n)
  else .error .malformed

/-- Gives a collection its members. The tag says what kind of node they have to be written by. -/
def fill (b : Builder) (n : Nat) : Result Builder := do
  let (content, b) ←
    match b.graph.node n with
    | .sequence .sequence items => do
      let (xs, b) ← b.buildAll items
      pure (Content.list xs, b)
    | .sequence .pairs items => do
      let (ps, b) ← b.buildPairs items
      pure (Content.pairs ps, b)
    | .mapping .mapping _ => do
      let (es, b) ← b.buildMapping n
      pure (Content.map es, b)
    | .mapping .set _ => do
      let (es, b) ← b.buildMapping n
      pure (Content.set (es.map (·.1)), b)
    | _ => .error .malformed
  return { b with contents := b.contents.setIfInBounds n content }

/-- Gives all collections their members, level by level. -/
def finish : Nat → Builder → Result Builder
  | 0, b => .ok b
  | fuel + 1, b =>
    match b.waiting with
    | [] => .ok b
    | ns => do finish fuel (← ns.reverse.foldlM fill { b with waiting := [] })

end Builder

end CapsuleKit.Yaml

import CapsuleKit.Yaml.Tag
import CapsuleKit.Yaml.Token

/-!
# Nodes

The nodes that the tokens of a document write. An anchor lets several places share a node, and a
node may even stand inside itself, so the nodes form a graph: they are numbered, and collections
name their members by number. `Graph.ofTokens` reads the single document of a text.
-/

namespace CapsuleKit.Yaml

inductive Node where
  | scalar (tag : Tag) (text : String)
  | sequence (tag : Tag) (items : List Nat)
  | mapping (tag : Tag) (entries : List (Nat × Nat))

namespace Node

/-- The node where nothing is written. -/
def empty : Node := .scalar .null ""

def tag : Node → Tag
  | .scalar t _ => t
  | .sequence t _ => t
  | .mapping t _ => t

/-- The node with another tag. -/
def retag (t : Tag) : Node → Node
  | .scalar _ s => .scalar t s
  | .sequence _ items => .sequence t items
  | .mapping _ entries => .mapping t entries

def isMapping : Node → Bool
  | .mapping .. => true
  | _ => false

end Node

/-- The nodes of a document, by number. -/
structure Graph where
  nodes : Array Node := #[]

namespace Graph

def size (g : Graph) : Nat := g.nodes.size

/-- The node with a number. -/
def node (g : Graph) (n : Nat) : Node :=
  g.nodes.getD n .empty

/-- Puts a node in the place of the one with a number. -/
def put (g : Graph) (n : Nat) (node : Node) : Graph :=
  ⟨g.nodes.setIfInBounds n node⟩

def push (g : Graph) (node : Node) : Graph :=
  ⟨g.nodes.push node⟩

/-- The entries of a mapping. -/
def entries (g : Graph) (n : Nat) : List (Nat × Nat) :=
  match g.node n with
  | .mapping _ es => es
  | _ => []

/-- What is left of the tokens, the nodes so far, the numbers of the nodes that anchors name, and
the meaning of tag handles. -/
structure Source where
  tokens : List Token
  graph : Graph := {}
  anchors : List (String × Nat) := []
  handles : List (String × String)

namespace Source

/-- The next token; past the end there is nothing that fits. -/
def peek (s : Source) : Token :=
  s.tokens.headD (.stop .malformed)

def next (s : Source) : Source :=
  { s with tokens := s.tokens.drop 1 }

/-- The fault at a token that does not fit. -/
def misfit (s : Source) : Fault :=
  match s.peek with
  | .stop fault => fault
  | _ => .malformed

/-- One more node, under a name unless the name is taken. -/
def add (anchor : Option String) (n : Node) (s : Source) : Result (Nat × Source) :=
  let number := s.graph.size
  let more := { s with graph := s.graph.push n }
  match anchor with
  | none => .ok (number, more)
  | some a =>
    if s.anchors.any (·.1 == a) then .error .malformed
    else .ok (number, { more with anchors := (a, number) :: s.anchors })

/-- One more node for what is left out. -/
def addEmpty (s : Source) : Result (Nat × Source) :=
  s.add none .empty

/-- A collection with its members, which are known only after it has its number. -/
def close (number : Nat) (n : Node) (s : Source) : Nat × Source :=
  (number, { s with graph := s.graph.put number n })

end Source

/-- What is written in front of a node. -/
structure Properties where
  anchor : Option String := none
  tag : Option String := none

/-- A tag with the meaning of its handle put in. -/
def resolveTag (s : Source) (t : TagText) : Result String :=
  match t.handle with
  | none => .ok t.suffix
  | some h =>
    match s.handles.lookup h with
    | some start => .ok (start ++ t.suffix)
    | none => .error .malformed

/-- An anchor and a tag, each at most once, in either order. What follows a tag has to be known
before its handle is looked up. -/
def properties (s : Source) : Result (Properties × Source) :=
  match s.tokens with
  | .anchor a :: .tag t :: _ => do return (⟨some a, some (← resolveTag s t)⟩, s.next.next)
  | .tag t :: .anchor a :: _ => do return (⟨some a, some (← resolveTag s t)⟩, s.next.next)
  | .tag _ :: .stop fault :: _ => .error fault
  | .anchor a :: _ => .ok (⟨some a, none⟩, s.next)
  | .tag t :: _ => do return (⟨none, some (← resolveTag s t)⟩, s.next)
  | _ => .ok (⟨none, none⟩, s)

/-- The tag of a node that is no scalar. -/
def Properties.tagOr (p : Properties) (own : Tag) : Tag :=
  match p.tag with
  | none => own
  | some t => if t = "!" then own else .ofUri t

/-- A scalar: without a tag of its own a plain text gets one from its form. -/
def Properties.scalar (p : Properties) (text : String) (plain : Bool) : Node :=
  match p.tag with
  | none => .scalar (if plain then .ofPlain text else .text) text
  | some t => .scalar (if t = "!" then .ofPlain text else .ofUri t) text

/-- Whether a token of a block or flow collection stands where a node could. -/
def isBlockMark : Token → Bool
  | .key | .value | .blockEnd => true
  | _ => false

def isFlowMark : Token → Bool
  | .value | .flowEntry | .flowSequenceEnd | .flowMappingEnd => true
  | _ => false

mutual

/-- A node. Blocks are allowed outside brackets only, and a sequence that is not indented only
behind a key. A collection has its number and its name before its members are read. -/
def read (block indentless : Bool) : Nat → Source → Result (Nat × Source)
  | 0, s => .error s.misfit
  | fuel + 1, s =>
    match s.peek with
    | .alias a =>
      match s.anchors.lookup a with
      | some n => .ok (n, s.next)
      | none => .error .malformed
    | _ => do
      let (p, s) ← properties s
      match s.peek, block, indentless with
      | .blockEntry, _, true => do
        let tag := p.tagOr .sequence
        let (n, s) ← s.add p.anchor (.sequence tag [])
        let (items, s) ← readIndentless fuel s
        return s.close n (.sequence tag items)
      | .scalar text plain, _, _ => s.next.add p.anchor (p.scalar text plain)
      | .flowSequenceStart, _, _ => do
        let tag := p.tagOr .sequence
        let (n, s) ← s.add p.anchor (.sequence tag [])
        let (items, s) ← readFlowItems true fuel s.next
        return s.close n (.sequence tag items)
      | .flowMappingStart, _, _ => do
        let tag := p.tagOr .mapping
        let (n, s) ← s.add p.anchor (.mapping tag [])
        let (entries, s) ← readFlowEntries true fuel s.next
        return s.close n (.mapping tag entries)
      | .blockSequenceStart, true, _ => do
        let tag := p.tagOr .sequence
        let (n, s) ← s.add p.anchor (.sequence tag [])
        let (items, s) ← readBlockItems fuel s.next
        return s.close n (.sequence tag items)
      | .blockMappingStart, true, _ => do
        let tag := p.tagOr .mapping
        let (n, s) ← s.add p.anchor (.mapping tag [])
        let (entries, s) ← readBlockEntries fuel s.next
        return s.close n (.mapping tag entries)
      | .stop fault, _, _ => .error fault
      | _, _, _ =>
        if p.anchor.isSome || p.tag.isSome then s.add p.anchor (p.scalar "" true)
        else .error .malformed

/-- The items of a block sequence up to its end. -/
def readBlockItems : Nat → Source → Result (List Nat × Source)
  | 0, s => .error s.misfit
  | fuel + 1, s =>
    match s.peek with
    | .blockEntry => do
      let s := s.next
      let (n, s) ←
        match s.peek with
        | .blockEntry | .blockEnd => s.addEmpty
        | _ => read true false fuel s
      let (ns, s) ← readBlockItems fuel s
      return (n :: ns, s)
    | .blockEnd => .ok ([], s.next)
    | _ => .error s.misfit

/-- The items of a sequence that is not indented: as long as another one follows. -/
def readIndentless : Nat → Source → Result (List Nat × Source)
  | 0, s => .error s.misfit
  | fuel + 1, s =>
    match s.peek with
    | .blockEntry => do
      let s := s.next
      let (n, s) ←
        match s.peek with
        | .blockEntry | .key | .value | .blockEnd => s.addEmpty
        | _ => read true false fuel s
      let (ns, s) ← readIndentless fuel s
      return (n :: ns, s)
    | .stop fault => .error fault
    | _ => .ok ([], s)

/-- A key or a value in a block mapping, which may be left out. -/
def readBlockPart : Nat → Source → Result (Nat × Source)
  | 0, s => .error s.misfit
  | fuel + 1, s => if isBlockMark s.peek then s.addEmpty else read true true fuel s

/-- The entries of a block mapping up to its end. -/
def readBlockEntries : Nat → Source → Result (List (Nat × Nat) × Source)
  | 0, s => .error s.misfit
  | fuel + 1, s =>
    match s.peek with
    | .key => do
      let (k, s) ← readBlockPart fuel s.next
      let (v, s) ←
        match s.peek with
        | .value => readBlockPart fuel s.next
        | _ => s.addEmpty
      let (es, s) ← readBlockEntries fuel s
      return ((k, v) :: es, s)
    | .blockEnd => .ok ([], s.next)
    | _ => .error s.misfit

/-- A key or a value inside brackets, which may be left out. -/
def readFlowPart : Nat → Source → Result (Nat × Source)
  | 0, s => .error s.misfit
  | fuel + 1, s => if isFlowMark s.peek then s.addEmpty else read false false fuel s

/-- What stands behind a key inside brackets. -/
def readFlowValue : Nat → Source → Result (Nat × Source)
  | 0, s => .error s.misfit
  | fuel + 1, s =>
    match s.peek with
    | .value => readFlowPart fuel s.next
    | _ => s.addEmpty

/-- The items of a flow sequence up to its end; a key makes an item a mapping of one entry. -/
def readFlowItems (first : Bool) : Nat → Source → Result (List Nat × Source)
  | 0, s => .error s.misfit
  | fuel + 1, s =>
    match s.peek, first with
    | .flowSequenceEnd, _ => .ok ([], s.next)
    | .flowEntry, false => readFlowItem fuel s.next
    | _, true => readFlowItem fuel s
    | _, false => .error s.misfit

/-- An item of a flow sequence and those behind it. -/
def readFlowItem : Nat → Source → Result (List Nat × Source)
  | 0, s => .error s.misfit
  | fuel + 1, s =>
    match s.peek with
    | .flowSequenceEnd => .ok ([], s.next)
    | .key => do
      let (n, s) ← s.next.add none (.mapping .mapping [])
      let (k, s) ← readFlowPart fuel s
      let (v, s) ← readFlowValue fuel s
      let (n, s) := s.close n (.mapping .mapping [(k, v)])
      let (ns, s) ← readFlowItems false fuel s
      return (n :: ns, s)
    | _ => do
      let (n, s) ← read false false fuel s
      let (ns, s) ← readFlowItems false fuel s
      return (n :: ns, s)

/-- The entries of a flow mapping up to its end. -/
def readFlowEntries (first : Bool) : Nat → Source → Result (List (Nat × Nat) × Source)
  | 0, s => .error s.misfit
  | fuel + 1, s =>
    match s.peek, first with
    | .flowMappingEnd, _ => .ok ([], s.next)
    | .flowEntry, false => readFlowEntry fuel s.next
    | _, true => readFlowEntry fuel s
    | _, false => .error s.misfit

/-- An entry of a flow mapping and those behind it. -/
def readFlowEntry : Nat → Source → Result (List (Nat × Nat) × Source)
  | 0, s => .error s.misfit
  | fuel + 1, s =>
    match s.peek with
    | .flowMappingEnd => .ok ([], s.next)
    | .key => do
      let (k, s) ← readFlowPart fuel s.next
      let (v, s) ← readFlowValue fuel s
      let (es, s) ← readFlowEntries false fuel s
      return ((k, v) :: es, s)
    | _ => do
      let (k, s) ← read false false fuel s
      let (v, s) ← s.addEmpty
      let (es, s) ← readFlowEntries false fuel s
      return ((k, v) :: es, s)

end

/-- The meaning of tag handles when a document says nothing else. -/
def defaultHandles : List (String × String) :=
  [("!", "!"), ("!!", Tag.commonStart)]

/-- Reads the directives in front of a document: the version at most once and only a known one, and
each handle at most once. -/
def directives (version : Bool) (handles : List (String × String)) :
    List Token → Result (List (String × String) × List Token)
  | .directive (.version major) :: rest =>
    if version || major != 1 then .error .malformed else directives true handles rest
  | .directive (.tag handle start) :: rest =>
    if handles.any (·.1 == handle) then .error .malformed
    else directives version (handles ++ [(handle, start)]) rest
  | .directive .other :: rest => directives version handles rest
  | rest => .ok (handles, rest)

/-- Whether the content of a document is left out. -/
def isDocumentMark : Token → Bool
  | .directive _ | .documentStart | .documentEnd | .textEnd => true
  | _ => false

/-- Nothing but ends of documents may follow the only document; directives of another one count. -/
def close : List Token → Result Unit
  | .documentEnd :: rest => close rest
  | [.textEnd] => .ok ()
  | rest => do
    match (← directives false [] rest).2 with
    | .stop fault :: _ => .error fault
    | _ => .error .malformed

/-- A graph and the number of the node that a document starts with. -/
structure Rooted where
  graph : Graph
  root : Nat

/-- The document with nothing in it. -/
def nothing : Rooted :=
  ⟨({} : Graph).push .empty, 0⟩

/-- The content of a document. -/
def content (handles : List (String × String)) (tokens : List Token) : Result Rooted := do
  let (n, s) ← read true false (5 * tokens.length + 5) { tokens := tokens, handles := handles }
  close s.tokens
  return ⟨s.graph, n⟩

/-- The single document that tokens write. A text without any is an empty node; so is a document
with nothing behind its start. -/
def ofTokens (tokens : List Token) : Result Rooted :=
  match tokens with
  | [.textEnd] => .ok nothing
  | t :: _ =>
    match t with
    | .directive _ | .documentStart => do
      let (handles, rest) ← directives false [] tokens
      match rest with
      | .documentStart :: rest =>
        if (rest.head?.map isDocumentMark).getD false then do
          close rest
          return nothing
        else content (handles ++ defaultHandles) rest
      | .stop fault :: _ => .error fault
      | _ => .error .malformed
    | _ => content defaultHandles tokens
  | [] => .error .malformed

end Graph

end CapsuleKit.Yaml

import CapsuleKit.Proofs.Jsx.Expression
import CapsuleKit.Proofs.Names

/-!
# Reading JSX

`Jsx.read` reads the nodes that stand beside each other in a text of JSX: elements and comments. It
takes one character at a time and keeps a stack of what is open, an element or a fragment in an
attribute. It is strict. A closing tag must name the innermost element, a fragment must end inside
the braces it started in, and text between the nodes is refused, so that whatever escapes from the
place where it was written makes the reader fail or changes the nodes.
-/

namespace CapsuleKit.Jsx

open Text (isNameStart isNamePart exists_of_isPlainName isNamePart_of_isNameStart ne_of_isNameStart)

mutual

/-- What stands on a page. -/
inductive Node where
  | element (component : String) (attributes : List Attribute) (children : List Node)
  | comment (text : String)

/-- An attribute without a value, with a text or an expression as it is written, or with a fragment. -/
inductive Attribute where
  | bare (name : String)
  | value (name source : String)
  | fragment (name : String) (nodes : List Node)

end

/-- A tag as far as it has been read. -/
structure Tag where
  component : String
  attributes : List Attribute := []

def Tag.add (t : Tag) (a : Attribute) : Tag :=
  { t with attributes := t.attributes ++ [a] }

/-- What is open, with the nodes that stand before it in the content around it. -/
inductive Frame where
  | element (tag : Tag) (before : List Node)
  | slot (tag : Tag) (name : String) (before : List Node)

/-- What the last characters were part of. -/
inductive Mode where
  | content
  | less
  | tagName (name : List Char)
  | tag (tag : Tag)
  | slash (tag : Tag)
  | attributeName (tag : Tag) (name : List Char)
  | attributeValue (tag : Tag) (name : String)
  | attributeText (tag : Tag) (name : String) (text : List Char)
  | attributeBrace (tag : Tag) (name : String)
  | expression (tag : Tag) (name : String) (source : List Char) (scan : Scan)
  | fragmentStart (tag : Tag) (name : String)
  | fragmentEnd
  | closing (name : List Char)
  | brace
  | commentStart
  | comment (text : List Char)
  | commentEnd

structure State where
  mode : Mode
  /-- The nodes of the innermost content. -/
  nodes : List Node
  stack : List Frame

def isSpace (c : Char) : Bool :=
  c == ' ' || c == '\n' || c == '\t' || c == '\r'

namespace State

variable (nodes : List Node) (stack : List Frame)

def tagStep (t : Tag) (c : Char) : Option State :=
  if isSpace c then some ⟨.tag t, nodes, stack⟩
  else if c = '/' then some ⟨.slash t, nodes, stack⟩
  else if c = '>' then some ⟨.content, [], .element t nodes :: stack⟩
  else if isNameStart c then some ⟨.attributeName t [c], nodes, stack⟩
  else none

/-- The end of a closing tag, which closes what is innermost or nothing. -/
def close (name : List Char) : Option State :=
  match stack with
  | .element t before :: rest =>
    if String.ofList name = t.component then
      some ⟨.content, before ++ [.element t.component t.attributes nodes], rest⟩
    else none
  | .slot .. :: _ => if name = [] then some ⟨.fragmentEnd, nodes, stack⟩ else none
  | [] => none

/-- The brace behind a fragment. -/
def closeSlot : Option State :=
  match stack with
  | .slot t name before :: rest => some ⟨.tag (t.add (.fragment name nodes)), before, rest⟩
  | _ => none

def step : State → Char → Option State
  | ⟨.content, nodes, stack⟩, c =>
    if isSpace c then some ⟨.content, nodes, stack⟩
    else if c = '<' then some ⟨.less, nodes, stack⟩
    else if c = '\x7b' then some ⟨.brace, nodes, stack⟩
    else none
  | ⟨.less, nodes, stack⟩, c =>
    if c = '/' then some ⟨.closing [], nodes, stack⟩
    else if isNameStart c then some ⟨.tagName [c], nodes, stack⟩
    else none
  | ⟨.tagName name, nodes, stack⟩, c =>
    if isNamePart c then some ⟨.tagName (name ++ [c]), nodes, stack⟩
    else tagStep nodes stack ⟨String.ofList name, []⟩ c
  | ⟨.tag t, nodes, stack⟩, c => tagStep nodes stack t c
  | ⟨.slash t, nodes, stack⟩, c =>
    if c = '>' then some ⟨.content, nodes ++ [.element t.component t.attributes []], stack⟩ else none
  | ⟨.attributeName t name, nodes, stack⟩, c =>
    if isNamePart c then some ⟨.attributeName t (name ++ [c]), nodes, stack⟩
    else if c = '=' then some ⟨.attributeValue t (String.ofList name), nodes, stack⟩
    else tagStep nodes stack (t.add (.bare (String.ofList name))) c
  | ⟨.attributeValue t name, nodes, stack⟩, c =>
    if c = '"' then some ⟨.attributeText t name [], nodes, stack⟩
    else if c = '\x7b' then some ⟨.attributeBrace t name, nodes, stack⟩
    else none
  | ⟨.attributeText t name text, nodes, stack⟩, c =>
    if c = '"' then
      some ⟨.tag (t.add (.value name ("\"" ++ String.ofList text ++ "\""))), nodes, stack⟩
    else some ⟨.attributeText t name (text ++ [c]), nodes, stack⟩
  | ⟨.attributeBrace t name, nodes, stack⟩, c =>
    if c = '<' then some ⟨.fragmentStart t name, nodes, stack⟩
    else ((Scan.code 0).step c).map fun scan => ⟨.expression t name [c] scan, nodes, stack⟩
  | ⟨.expression t name source scan, nodes, stack⟩, c =>
    if scan = .code 0 ∧ c = '\x7d' then
      some ⟨.tag (t.add (.value name (braced (String.ofList source)))), nodes, stack⟩
    else (scan.step c).map fun next => ⟨.expression t name (source ++ [c]) next, nodes, stack⟩
  | ⟨.fragmentStart t name, nodes, stack⟩, c =>
    if c = '>' then some ⟨.content, [], .slot t name nodes :: stack⟩ else none
  | ⟨.fragmentEnd, nodes, stack⟩, c => if c = '\x7d' then closeSlot nodes stack else none
  | ⟨.closing name, nodes, stack⟩, c =>
    if isNamePart c then some ⟨.closing (name ++ [c]), nodes, stack⟩
    else if c = '>' then close nodes stack name
    else none
  | ⟨.brace, nodes, stack⟩, c => if c = '/' then some ⟨.commentStart, nodes, stack⟩ else none
  | ⟨.commentStart, nodes, stack⟩, c => if c = '*' then some ⟨.comment [], nodes, stack⟩ else none
  | ⟨.comment text, nodes, stack⟩, c =>
    -- the star is read as text before the slash shows that it ends the comment
    if c = '/' ∧ text.getLast? = some '*' then
      some ⟨.commentEnd, nodes ++ [.comment (String.ofList text.dropLast)], stack⟩
    else some ⟨.comment (text ++ [c]), nodes, stack⟩
  | ⟨.commentEnd, nodes, stack⟩, c => if c = '\x7d' then some ⟨.content, nodes, stack⟩ else none

def run (s : State) (cs : List Char) : Option State :=
  cs.foldlM step s

theorem run_append (s : State) (as bs : List Char) : s.run (as ++ bs) = (s.run as).bind (·.run bs) :=
  List.foldlM_append

theorem run_cons (s : State) (c : Char) (cs : List Char) :
    s.run (c :: cs) = (s.step c).bind (·.run cs) :=
  List.foldlM_cons

theorem run_cons_of_step {s s' : State} {c : Char} (h : s.step c = some s') (cs : List Char) :
    s.run (c :: cs) = s'.run cs := by
  rw [run_cons, h]
  rfl

theorem run_cons_congr {s s' : State} {c : Char} (h : s.step c = s'.step c) (cs : List Char) :
    s.run (c :: cs) = s'.run (c :: cs) := by
  rw [run_cons, run_cons, h]

theorem run_append_of_run {s s' : State} {as : List Char} (h : s.run as = some s') (bs : List Char) :
    s.run (as ++ bs) = s'.run bs := by
  rw [run_append, h]
  rfl

variable {nodes stack} {t : Tag} {name : String} {c : Char} {cs : List Char}

theorem run_content_space (h : isSpace c = true) (cs : List Char) :
    run ⟨.content, nodes, stack⟩ (c :: cs) = run ⟨.content, nodes, stack⟩ cs := by
  rw [run_cons, step, if_pos h]
  rfl

theorem run_content_spaces (n : Nat) (cs : List Char) :
    run ⟨.content, nodes, stack⟩ ((Text.spaces n).toList ++ cs) = run ⟨.content, nodes, stack⟩ cs := by
  rw [Text.spaces, String.toList_ofList]
  induction n with
  | zero => rfl
  | succ n ih =>
    rw [List.replicate_succ, List.cons_append, run_content_space (by decide), ih]

theorem run_collect {p : Char → Prop} {mode : List Char → Mode}
    (hstep : ∀ text c, p c → step ⟨mode text, nodes, stack⟩ c = some ⟨mode (text ++ [c]), nodes, stack⟩)
    (text : List Char) (h : ∀ c ∈ cs, p c) :
    run ⟨mode text, nodes, stack⟩ cs = some ⟨mode (text ++ cs), nodes, stack⟩ := by
  induction cs generalizing text with
  | nil => rw [List.append_nil]; rfl
  | cons c cs ih =>
    obtain ⟨hc, hcs⟩ := List.forall_mem_cons.1 h
    rw [run_cons_of_step (hstep text c hc), ih (text ++ [c]) hcs, List.append_assoc,
      List.singleton_append]

/-! ### Names -/

theorem tagStep_nameStart (h : isNameStart c = true) :
    tagStep nodes stack t c = some ⟨.attributeName t [c], nodes, stack⟩ := by
  have hspace : isSpace c = false := by
    simp only [isSpace, Bool.or_eq_false_iff, beq_eq_false_iff_ne]
    exact ⟨⟨⟨ne_of_isNameStart h rfl, ne_of_isNameStart h rfl⟩, ne_of_isNameStart h rfl⟩,
      ne_of_isNameStart h rfl⟩
  rw [tagStep, hspace, if_neg (by decide), if_neg (ne_of_isNameStart h rfl),
    if_neg (ne_of_isNameStart h rfl), if_pos h]

theorem step_tagName (text : List Char) (c : Char) (h : isNamePart c = true) :
    step ⟨.tagName text, nodes, stack⟩ c = some ⟨.tagName (text ++ [c]), nodes, stack⟩ :=
  if_pos h

theorem step_closing (text : List Char) (c : Char) (h : isNamePart c = true) :
    step ⟨.closing text, nodes, stack⟩ c = some ⟨.closing (text ++ [c]), nodes, stack⟩ :=
  if_pos h

theorem step_attributeName (text : List Char) (c : Char) (h : isNamePart c = true) :
    step ⟨.attributeName t text, nodes, stack⟩ c =
      some ⟨.attributeName t (text ++ [c]), nodes, stack⟩ :=
  if_pos h

theorem run_tagName (h : Text.isPlainName name = true) :
    run ⟨.less, nodes, stack⟩ name.toList = some ⟨.tagName name.toList, nodes, stack⟩ := by
  obtain ⟨c, cs, hname, hc, hcs⟩ := exists_of_isPlainName h
  have hstep : step ⟨.less, nodes, stack⟩ c = some ⟨.tagName [c], nodes, stack⟩ := by
    rw [step, if_neg (ne_of_isNameStart hc rfl), if_pos hc]
  rw [hname, run_cons_of_step hstep]
  exact run_collect step_tagName [c] hcs

theorem run_closing (h : Text.isPlainName name = true) :
    run ⟨.closing [], nodes, stack⟩ name.toList = some ⟨.closing name.toList, nodes, stack⟩ := by
  obtain ⟨c, cs, hname, hc, hcs⟩ := exists_of_isPlainName h
  rw [hname]
  exact run_collect step_closing []
    (List.forall_mem_cons.2 ⟨isNamePart_of_isNameStart hc, hcs⟩)

theorem run_attributeName (h : Text.isPlainName name = true) :
    run ⟨.tag t, nodes, stack⟩ name.toList = some ⟨.attributeName t name.toList, nodes, stack⟩ := by
  obtain ⟨c, cs, hname, hc, hcs⟩ := exists_of_isPlainName h
  have hstep : step ⟨.tag t, nodes, stack⟩ c = some ⟨.attributeName t [c], nodes, stack⟩ :=
    tagStep_nameStart hc
  rw [hname, run_cons_of_step hstep]
  exact run_collect step_attributeName [c] hcs

end State

/-- The nodes of a text; none when it is no sequence of complete nodes. -/
def read (s : String) : Option (List Node) :=
  match State.run ⟨.content, [], []⟩ s.toList with
  | some ⟨.content, nodes, []⟩ => some nodes
  | _ => none

end CapsuleKit.Jsx

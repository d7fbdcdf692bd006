import CapsuleKit.Proofs.Names
import CapsuleKit.Proofs.Numerals
import CapsuleKit.Proofs.Split

/-!
# Reading calls

`Calls.read` reads the lines of a page in Swift or Kotlin, where a component is a call with labelled
arguments, closures among them, and with a trailing closure. Each line is read by itself
(`readLine`), and then a machine with a stack of what is open puts the lines together
(`State.step`). The reader is strict. A line holds one thing and nothing behind it, and a literal
has only the escapes of its language. An argument on a line of its own stands first or behind a
comma, and the last one has a comma or has none, as the `Dialect` wants it (`fits_of_read`).
-/

namespace CapsuleKit.Calls

open Text (isNamePart)

mutual

/-- What stands on a page: a call, with what its trailing closure holds if there is one, or a
comment. -/
inductive Node where
  | call (component : String) (arguments : List Argument) (children : Option (List Node))
  | comment (text : String)

/-- A labelled argument: a literal as it is written, or a closure. -/
inductive Argument where
  | literal (label text : String)
  | closure (label : String) (body : List Node)

end

/-- What a reader has to know of a language. -/
structure Dialect where
  /-- What stands between a label and the value. -/
  separator : List Char
  /-- What may stand behind a backslash in a literal. -/
  escapes : List Char
  /-- What cannot stand in a literal by itself. -/
  marks : List Char
  /-- Whether a comma stands behind the last of the arguments that have lines of their own. -/
  trailingComma : Bool

def swift : Dialect where
  separator := [':', ' ']
  escapes := ['\\', '"', 'n', 'r', 't']
  marks := ['"', '\\', '\n', '\r']
  trailingComma := false

/-- The dialect of Kotlin, where `$` starts a substitution. -/
def kotlin : Dialect where
  separator := [' ', '=', ' ']
  escapes := ['\\', '"', 'n', 'r', 't', '$']
  marks := ['"', '\\', '\n', '\r', '$']
  trailingComma := true

/-! ### Parts of a line -/

/-- The name at the start of a text, and what follows it. -/
def readName (cs : List Char) : Option (String × List Char) :=
  let name := String.ofList (cs.takeWhile isNamePart)
  if Text.isPlainName name then some (name, cs.dropWhile isNamePart) else none

/-- What stands behind a mark at the start of a text. -/
def after? (mark cs : List Char) : Option (List Char) :=
  if mark.isPrefixOf cs then some (cs.drop mark.length) else none

/-- The rest of a line, which may be empty or one mark; tells whether the mark is there. -/
def readEnd (mark cs : List Char) : Option Bool :=
  if cs = [] then some false else if cs = mark then some true else none

variable (D : Dialect)

/-- What stands before the quote that ends a literal, and what follows the quote. -/
def readQuoted : List Char → Option (List Char × List Char)
  | [] => none
  | '"' :: cs => some ([], cs)
  | '\\' :: c :: cs =>
    if c ∈ D.escapes then (readQuoted cs).map fun p => ('\\' :: c :: p.1, p.2) else none
  | c :: cs => if c ∈ D.marks then none else (readQuoted cs).map fun p => (c :: p.1, p.2)

/-- The literal at the start of a text: quoted, an empty closure, or a number or word. -/
def readLiteral : List Char → Option (String × List Char)
  | '"' :: cs => (readQuoted D cs).map fun p => (String.ofList ('"' :: p.1 ++ ['"']), p.2)
  | '\x7b' :: cs => (after? ['\x7d'] cs).map fun rest => ("\x7b\x7d", rest)
  | cs =>
    let word := cs.takeWhile isNumeralChar
    if word = [] then none else some (String.ofList word, cs.dropWhile isNumeralChar)

def readArgument (cs : List Char) : Option ((String × String) × List Char) := do
  let (label, cs) ← readName cs
  let cs ← after? D.separator cs
  let (text, cs) ← readLiteral D cs
  return ((label, text), cs)

/-- One or more arguments with commas between them, up to a closing bracket. -/
def readMore (cs : List Char) : Option (List (String × String) × List Char) :=
  match readArgument D cs with
  | some (a, ')' :: rest) => some ([a], rest)
  | some (a, ',' :: ' ' :: rest) =>
    if rest.length < cs.length then (readMore rest).map fun p => (a :: p.1, p.2) else none
  | _ => none
termination_by cs.length

def readArguments : List Char → Option (List (String × String) × List Char)
  | ')' :: rest => some ([], rest)
  | cs => readMore D cs

/-! ### Lines -/

/-- What a line holds. -/
inductive Line where
  | comment (text : String)
  /-- A call with all its arguments; it may open the trailing closure. -/
  | call (component : String) (arguments : List (String × String)) (opens : Bool)
  /-- A call whose arguments follow, one a line. -/
  | callStart (component : String)
  | argument (label text : String) (comma : Bool)
  | slotStart (label : String)
  /-- The end of a closure. -/
  | close (comma : Bool)
  /-- The end of the arguments; it may open the trailing closure. -/
  | argumentsEnd (opens : Bool)

def readNamed (name : String) : List Char → Option Line
  | '(' :: rest =>
    if rest = [] then some (.callStart name)
    else do
      let (arguments, rest) ← readArguments D rest
      (readEnd [' ', '\x7b'] rest).map (.call name arguments)
  | rest => do
    let rest ← after? D.separator rest
    if rest = ['\x7b'] then some (.slotStart name)
    else do
      let (text, rest) ← readLiteral D rest
      (readEnd [','] rest).map (.argument name text)

def readCode : List Char → Option Line
  | '/' :: rest => (after? ['/'] rest).map fun text => .comment (String.ofList text)
  | '\x7d' :: rest => (readEnd [','] rest).map .close
  | ')' :: rest => (readEnd [' ', '\x7b'] rest).map .argumentsEnd
  | cs => do
    let (name, rest) ← readName cs
    readNamed D name rest

def readLine (line : String) : Option Line :=
  readCode D (line.toList.dropWhile (· == ' '))

/-! ### Pages -/

/-- A call as far as its arguments have been read. -/
structure Head where
  component : String
  arguments : List Argument := []

def Head.add (h : Head) (a : Argument) : Head :=
  { h with arguments := h.arguments ++ [a] }

/-- A closure that is open, with the nodes that stand before its call. -/
inductive Frame where
  | children (head : Head) (before : List Node)
  | slot (head : Head) (label : String) (before : List Node)

inductive Mode where
  | content
  /-- Among the arguments of a call, ready for one at the start and behind a comma. -/
  | arguments (head : Head) (ready : Bool)

structure State where
  mode : Mode
  /-- The nodes of the innermost content. -/
  nodes : List Node
  stack : List Frame

namespace State

/-- The end of a call's head, which may open the trailing closure. -/
def finish (nodes : List Node) (stack : List Frame) (head : Head) (opens : Bool) : State :=
  if opens then ⟨.content, [], .children head nodes :: stack⟩
  else ⟨.content, nodes ++ [.call head.component head.arguments none], stack⟩

def step : State → Line → Option State
  | ⟨.content, nodes, stack⟩, .comment text => some ⟨.content, nodes ++ [.comment text], stack⟩
  | ⟨.content, nodes, stack⟩, .call component arguments opens =>
    some (finish nodes stack ⟨component, arguments.map fun a => .literal a.1 a.2⟩ opens)
  | ⟨.content, nodes, stack⟩, .callStart component =>
    some ⟨.arguments ⟨component, []⟩ true, nodes, stack⟩
  | ⟨.content, nodes, .children head before :: stack⟩, .close false =>
    some ⟨.content, before ++ [.call head.component head.arguments (some nodes)], stack⟩
  | ⟨.content, nodes, .slot head label before :: stack⟩, .close comma =>
    some ⟨.arguments (head.add (.closure label nodes)) comma, before, stack⟩
  | ⟨.arguments head true, nodes, stack⟩, .argument label text comma =>
    some ⟨.arguments (head.add (.literal label text)) comma, nodes, stack⟩
  | ⟨.arguments head true, nodes, stack⟩, .slotStart label =>
    some ⟨.content, [], .slot head label nodes :: stack⟩
  | ⟨.arguments head ready, nodes, stack⟩, .argumentsEnd opens =>
    if ready = D.trailingComma then some (finish nodes stack head opens) else none
  | _, _ => none

def run (s : State) (ls : List Line) : Option State :=
  ls.foldlM (step D) s

end State

/-- The nodes of a page, if its lines are read to the end and nothing is left open. -/
def read (lines : List String) : Option (List Node) := do
  let ls ← lines.mapM (readLine D)
  match ← State.run D ⟨.content, [], []⟩ ls with
  | ⟨.content, nodes, []⟩ => return nodes
  | _ => none

/-! ### Commas -/

/-- The comma at the end of an argument, if there is one. -/
def Line.comma? : Line → Option Bool
  | .argument _ _ comma => some comma
  | .close comma => some comma
  | _ => none

/-- Whether the comma of a line fits the line behind it: before another argument it stands, and
before the end of the arguments it stands or is missing, as the dialect wants it. -/
def Line.Fits (l : Line) : Line → Prop
  | .argument _ _ _ => ∀ comma, l.comma? = some comma → comma = true
  | .slotStart _ => ∀ comma, l.comma? = some comma → comma = true
  | .argumentsEnd _ => ∀ comma, l.comma? = some comma → comma = D.trailingComma
  | _ => True

variable {D}

/-- Behind a line that may end an argument, the reader is among the arguments only if the line has
ended one, and is ready for another one only behind a comma. -/
theorem State.ready_of_step {s : State} {l : Line} {head : Head} {ready comma : Bool}
    {nodes : List Node} {stack : List Frame}
    (h : s.step D l = some ⟨.arguments head ready, nodes, stack⟩) (hl : l.comma? = some comma) :
    comma = ready := by
  unfold step at h
  split at h
  case h_4 => cases h
  case h_5 => cases h; cases hl; rfl
  case h_6 => cases h; cases hl; rfl
  case h_9 => cases h
  all_goals cases hl

theorem Line.fits_of_step {s t u : State} {l m : Line} (hl : s.step D l = some t)
    (hm : t.step D m = some u) : l.Fits D m := by
  unfold State.step at hm
  split at hm
  case h_6 => exact fun comma hcomma => State.ready_of_step hl hcomma
  case h_7 => exact fun comma hcomma => State.ready_of_step hl hcomma
  case h_8 =>
    split at hm
    case isTrue hready => exact fun comma hcomma => (State.ready_of_step hl hcomma).trans hready
    case isFalse => cases hm
  case h_9 => cases hm
  all_goals trivial

theorem fits_of_read {before after : List String} {line next : String} {ns : List Node}
    (h : read D (before ++ line :: next :: after) = some ns) {l m : Line}
    (hl : readLine D line = some l) (hm : readLine D next = some m) : l.Fits D m := by
  obtain ⟨ls, hls, hrun⟩ := Option.bind_eq_some_iff.1 h
  obtain ⟨bs, cs, rfl⟩ : ∃ bs cs, ls = bs ++ l :: m :: cs := by
    rw [List.mapM_append] at hls
    obtain ⟨bs, -, hls⟩ := Option.bind_eq_some_iff.1 hls
    obtain ⟨ms, hms, hls⟩ := Option.bind_eq_some_iff.1 hls
    rw [List.mapM_cons, List.mapM_cons, hl, hm] at hms
    obtain ⟨_, ⟨⟩, hms⟩ := Option.bind_eq_some_iff.1 hms
    obtain ⟨ks, hks, ⟨⟩⟩ := Option.bind_eq_some_iff.1 hms
    obtain ⟨_, ⟨⟩, hks⟩ := Option.bind_eq_some_iff.1 hks
    obtain ⟨cs, -, ⟨⟩⟩ := Option.bind_eq_some_iff.1 hks
    cases hls
    exact ⟨bs, cs, rfl⟩
  obtain ⟨t, hrun, -⟩ := Option.bind_eq_some_iff.1 hrun
  rw [State.run, List.foldlM_append] at hrun
  obtain ⟨s, -, hrun⟩ := Option.bind_eq_some_iff.1 hrun
  rw [List.foldlM_cons] at hrun
  obtain ⟨u, hstep, hrun⟩ := Option.bind_eq_some_iff.1 hrun
  rw [List.foldlM_cons] at hrun
  obtain ⟨v, hnext, -⟩ := Option.bind_eq_some_iff.1 hrun
  exact Line.fits_of_step hstep hnext

/-! ### Reading what was written -/

theorem after?_append (mark rest : List Char) : after? mark (mark ++ rest) = some rest := by
  have hfront : mark.isPrefixOf (mark ++ rest) = true :=
    List.isPrefixOf_iff_prefix.2 (List.prefix_append mark rest)
  rw [after?, if_pos hfront, List.drop_left]

theorem readName_append {name : String} (h : Text.isPlainName name = true) {rest : List Char}
    (hrest : ∀ c, rest.head? = some c → isNamePart c = false) :
    readName (name.toList ++ rest) = some (name, rest) := by
  obtain ⟨c, cs, hname, hc, hcs⟩ := Text.exists_of_isPlainName h
  have hpart : ∀ d ∈ name.toList, isNamePart d = true := by
    rw [hname]
    exact List.forall_mem_cons.2 ⟨Text.isNamePart_of_isNameStart hc, hcs⟩
  rw [readName, Text.takeWhile_append hpart hrest, Text.dropWhile_append hpart hrest,
    String.ofList_toList, if_pos h]

end CapsuleKit.Calls

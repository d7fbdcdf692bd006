import CapsuleKit.Proofs.Calls.Reader

/-!
# Brackets of a page

`scanLine` follows the brackets of a line of source without knowing what the line means: it passes
over literals and comments, keeps the open brackets on a stack and refuses one that does not fit. A
text is balanced if all its lines are passed and no bracket stays open (`IsBalanced`).

Each line that the reader knows changes the stack in its own way (`Line.effect`), and these changes
are those of the reader's stack: `State.effect_run`. So lines that are read to the end are balanced.
-/

namespace CapsuleKit.Calls

/-- Where a scan stands, with the brackets that are open, the innermost first. -/
inductive Scan where
  | code (stack : List Char)
  | slash (stack : List Char)
  | literal (stack : List Char)
  | escaped (stack : List Char)
  | comment (stack : List Char)

namespace Scan

def pop (bracket : Char) : List Char → Option Scan
  | [] => none
  | c :: stack => if c = bracket then some (.code stack) else none

/-- One character. A slash in code can only start a comment. -/
def step : Scan → Char → Option Scan
  | .code stack, c =>
    if c = '"' then some (.literal stack)
    else if c = '/' then some (.slash stack)
    else if c = '(' ∨ c = '\x7b' then some (.code (c :: stack))
    else if c = ')' then pop '(' stack
    else if c = '\x7d' then pop '\x7b' stack
    else some (.code stack)
  | .slash stack, c => if c = '/' then some (.comment stack) else none
  | .literal stack, c =>
    if c = '"' then some (.code stack)
    else if c = '\\' then some (.escaped stack)
    else some (.literal stack)
  | .escaped stack, _ => some (.literal stack)
  | .comment stack, _ => some (.comment stack)

def run (s : Scan) (cs : List Char) : Option Scan :=
  cs.foldlM step s

theorem run_append (s : Scan) (as bs : List Char) : s.run (as ++ bs) = (s.run as).bind (·.run bs) :=
  List.foldlM_append

theorem run_cons (s : Scan) (c : Char) (cs : List Char) :
    s.run (c :: cs) = (s.step c).bind (·.run cs) :=
  List.foldlM_cons

end Scan

/-- The open brackets at the end of a line, where a comment ends and no literal goes on. -/
def Scan.lineEnd : Scan → Option (List Char)
  | .code stack => some stack
  | .comment stack => some stack
  | _ => none

def scanLine (stack : List Char) (line : String) : Option (List Char) :=
  (Scan.run (.code stack) line.toList).bind Scan.lineEnd

/-- Whether brackets outside of literals and comments close each other, all of them. -/
def IsBalanced (lines : List String) : Prop :=
  lines.foldlM scanLine [] = some []

/-! ### Brackets of the reader -/

/-- What a line does to the open brackets. -/
def Line.effect : Line → List Char → Option (List Char)
  | .comment _, stack => some stack
  | .call _ _ opens, stack => some (if opens then '\x7b' :: stack else stack)
  | .callStart _, stack => some ('(' :: stack)
  | .argument _ _ _, stack => some stack
  | .slotStart _, stack => some ('\x7b' :: stack)
  | .close _, '\x7b' :: stack => some stack
  | .argumentsEnd opens, '(' :: stack => some (if opens then '\x7b' :: stack else stack)
  | _, _ => none

/-- A slot stands in the arguments of its call. -/
def Frame.brackets : Frame → List Char
  | .children _ _ => ['\x7b']
  | .slot _ _ _ => ['\x7b', '(']

namespace State

def brackets (s : State) : List Char :=
  (match s.mode with
  | .content => []
  | .arguments _ _ => ['(']) ++ s.stack.flatMap Frame.brackets

theorem brackets_finish (nodes : List Node) (stack : List Frame) (head : Head) (opens : Bool) :
    (finish nodes stack head opens).brackets =
      if opens then '\x7b' :: stack.flatMap Frame.brackets else stack.flatMap Frame.brackets := by
  cases opens <;> rfl

variable {D : Dialect} {s t : State}

theorem effect_step {l : Line} (h : step D s l = some t) :
    l.effect s.brackets = some t.brackets := by
  unfold step at h
  split at h
  case h_1 => cases h; rfl
  case h_2 => cases h; rw [brackets_finish]; rfl
  case h_3 => cases h; rfl
  case h_4 => cases h; rfl
  case h_5 => cases h; rfl
  case h_6 => cases h; rfl
  case h_7 => cases h; rfl
  case h_8 =>
    split at h
    · cases h; rw [brackets_finish]; rfl
    · cases h
  case h_9 => cases h

theorem effect_run {ls : List Line} (h : run D s ls = some t) :
    ls.foldlM (fun stack l => l.effect stack) s.brackets = some t.brackets := by
  induction ls generalizing s with
  | nil => cases h; rfl
  | cons l ls ih =>
    rw [run, List.foldlM_cons] at h
    obtain ⟨u, hstep, hrun⟩ := Option.bind_eq_some_iff.1 h
    rw [List.foldlM_cons, effect_step hstep]
    exact ih hrun

end State

end CapsuleKit.Calls

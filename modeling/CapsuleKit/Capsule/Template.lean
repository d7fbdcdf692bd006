import CapsuleKit.Text.Words

/-!
# Template source

The source text of a template is opaque but for its placeholders, a name between double braces with
optional blanks. `segments` cuts a source into placeholders and single characters, and `fill` puts
texts in place of the names it knows and leaves the others as they are. `render?` refuses values
under a name that is taken.
-/

namespace CapsuleKit.Template

/-- A piece of template source. -/
inductive Segment where
  | char (c : Char)
  | placeholder (source : List Char) (name : String)
  deriving DecidableEq

/-- The name of the placeholder at the start of a source, and the length of the placeholder. -/
def placeholder? (cs : List Char) : Option (List Char × Nat) :=
  match cs with
  | '\x7b' :: '\x7b' :: rest =>
    let inner := rest.dropWhile Text.isBlank
    match inner with
    | [] => none
    | c :: more =>
      if Text.isNameStart c then
        let after := (more.dropWhile Text.isNamePart).dropWhile Text.isBlank
        match after with
        | '\x7d' :: '\x7d' :: tail => some (c :: more.takeWhile Text.isNamePart, cs.length - tail.length)
        | _ => none
      else none
  | _ => none

/-- The decomposition of a source; the leftmost placeholder is taken first. -/
def segments : List Char → List Segment
  | [] => []
  | c :: cs =>
    match placeholder? (c :: cs) with
    | some (name, size) =>
      .placeholder ((c :: cs).take size) (String.ofList name) :: segments (cs.drop (size - 1))
    | none => .char c :: segments cs
termination_by cs => cs.length
decreasing_by
  · simp only [List.length_drop, List.length_cons]
    omega
  · simp

/-- The text of a piece under given values. -/
def Segment.text (values : List (String × String)) : Segment → List Char
  | .char c => [c]
  | .placeholder source name =>
    match values.lookup name with
    | some s => s.toList
    | none => source

/-- The name that no value may have: it stands for the template itself. -/
def ownName : String := "self"

/-- A source with the values in place of their names. -/
def fill (values : List (String × String)) (source : String) : String :=
  String.ofList ((segments source.toList).flatMap (·.text values))

/-- A source with given values, `none` when one of them has the name of the template itself. -/
def render? (values : List (String × String)) (source : String) : Option String :=
  if values.any (·.1 == ownName) then none else some (fill values source)

end CapsuleKit.Template

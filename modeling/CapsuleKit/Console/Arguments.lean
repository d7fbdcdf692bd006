import CapsuleKit.Text.Basic

/-!
# Arguments

How the words of a command line divide into options and other arguments. An option has a long name
(`--output`) and perhaps a short one (`-o`); its value is the next word, follows a long name behind
an equals sign or a short one directly. Short names without values may be joined, and `--` ends the
options.
-/

namespace CapsuleKit.Console

structure OptionSpec where
  long : String
  short : Option Char := none
  takesValue : Bool := true

/-- An option that was given, by its long name, and its value. -/
structure Given where
  option : String
  value : String
  deriving DecidableEq

/-- A word that cannot be used where it stands. -/
inductive UsageError where
  | unknownOption (word : String)
  | valueMissing (option : String)
  | valueUnexpected (option : String)
  deriving DecidableEq

/-- What one word says: options without values, and perhaps one that takes a value, with the value
if the word holds it. -/
structure Word where
  flags : List String := []
  last : Option (String × Option String) := none

/-- The options that short names in one word give. -/
def Word.ofShort (specs : List OptionSpec) : List Char → Except UsageError Word
  | [] => .ok {}
  | c :: cs =>
    match specs.find? fun s => s.short == some c with
    | none => .error (.unknownOption (String.ofList ['-', c]))
    | some s =>
      if s.takesValue then
        .ok { last := some (s.long, if cs.isEmpty then none else some (String.ofList cs)) }
      else do
        let w ← Word.ofShort specs cs
        return { w with flags := s.long :: w.flags }

/-- The options that a word gives. -/
def Word.ofText (specs : List OptionSpec) (word : String) : Except UsageError Word :=
  let (name, value) :=
    match Text.cutAtFirst '=' word.toList with
    | some (before, after) => (String.ofList before, some (String.ofList after))
    | none => (word, none)
  match specs.find? (·.long == name) with
  | some s =>
    if s.takesValue then .ok { last := some (s.long, value) }
    else if value.isSome then .error (.valueUnexpected s.long)
    else .ok { flags := [s.long] }
  | none =>
    match word.toList with
    | '-' :: '-' :: _ => .error (.unknownOption name)
    | _ => Word.ofShort specs (word.toList.drop 1)

/-- Whether a word gives options: it starts with a dash and goes on. -/
def isOptionWord (word : String) : Bool :=
  match word.toList with
  | '-' :: _ :: _ => true
  | _ => false

/-- The options of a command line in order, and its other words. -/
structure Arguments where
  given : List Given := []
  others : List String := []

namespace Arguments

def give (gs : List Given) (a : Arguments) : Arguments :=
  { a with given := gs ++ a.given }

/-- Reads the words of a command line. Options may stand between other words only if `mixed` holds;
else everything from the first other word on stays as it is. -/
def read (specs : List OptionSpec) (mixed : Bool) : List String → Except UsageError Arguments
  | [] => .ok {}
  | word :: rest =>
    if word = "--" then .ok { others := rest }
    else if isOptionWord word then do
      let w ← Word.ofText specs word
      let flags := w.flags.map (Given.mk · "")
      match w.last with
      | none => return (← read specs mixed rest).give flags
      | some (option, some value) =>
        return (← read specs mixed rest).give (flags ++ [⟨option, value⟩])
      | some (option, none) =>
        match rest with
        | value :: rest => return (← read specs mixed rest).give (flags ++ [⟨option, value⟩])
        | [] => .error (.valueMissing option)
    else if mixed then do
      let a ← read specs mixed rest
      return { a with others := word :: a.others }
    else .ok { others := word :: rest }

/-- Whether an option was given. -/
def has (a : Arguments) (option : String) : Bool :=
  a.given.any (·.option == option)

/-- The values of an option that may be repeated. -/
def values (a : Arguments) (option : String) : List String :=
  (a.given.filter (·.option == option)).map (·.value)

/-- The value of an option; the last one counts. -/
def value? (a : Arguments) (option : String) : Option String :=
  (a.values option).getLast?

end Arguments

end CapsuleKit.Console

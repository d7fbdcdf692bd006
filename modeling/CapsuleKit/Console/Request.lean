import CapsuleKit.Console.Arguments
import CapsuleKit.Files.Tree
import CapsuleKit.Text.Digit
import CapsuleKit.Number.Reading

/-!
# What a command line asks for

`Request.ofWords` reads the words of a command line: which command is to be run, and its options
with their values converted. Whether a path names a file is looked up in the file tree.
-/

namespace CapsuleKit.Console

/-- The options of every command that looks at a project. -/
structure ProjectOptions where
  /-- The directory of the manifest. -/
  project : Path
  /-- Files with further capsule definitions. -/
  capsuleFiles : List Path
  deriving DecidableEq

structure CompileOptions extends ProjectOptions where
  composition : Option Path := none
  platforms : List String := []
  output : Option Path := none
  theme : Option String := none
  /-- The time limit for a platform in seconds. -/
  timeout : Option Binary64 := none
  dryRun : Bool := false
  asJson : Bool := false
  verbose : Bool := false
  deriving DecidableEq

inductive Request where
  | version
  | help
  | compile (options : CompileOptions)
  | platforms
  | capsules (options : ProjectOptions)
  deriving DecidableEq

/-- Why a command line cannot be followed. -/
inductive RequestFault where
  | usage
  | embeddedNull
  deriving DecidableEq

def helpOption : OptionSpec := { long := "--help", takesValue := false }

def versionOption : OptionSpec := { long := "--version", takesValue := false }

def projectOptions : List OptionSpec :=
  [helpOption, { long := "--project", short := some 'p' },
    { long := "--capsules", short := some 'c' }]

def compileOptions : List OptionSpec :=
  projectOptions ++
    [{ long := "--platform", short := some 't' }, { long := "--output", short := some 'o' },
      { long := "--theme" }, { long := "--timeout" },
      { long := "--dry-run", short := some 'n', takesValue := false },
      { long := "--json", takesValue := false },
      { long := "--verbose", short := some 'V', takesValue := false }]

namespace Request

/-- Whether a text names a file as it is written; a slash at the end asks for a directory. -/
def namesFile (t : FileTree) (s : String) : Bool :=
  t.hasFile (Path.ofText s) && !s.endsWith "/" && !s.endsWith "/." && !FileTree.isTooLongPath s

/-- A number of seconds. -/
def seconds? (s : String) : Option Binary64 :=
  Number.readFloat? s

/-- What is wrong with a path. -/
def pathFault? (s : String) : Option RequestFault :=
  if FileTree.hasNull s then some .embeddedNull else none

/-- What is wrong with the value of an option that was given. -/
def optionFault? (t : FileTree) (a : Arguments) (option : String) : Option RequestFault :=
  match option with
  | "--project" =>
    (a.value? option).bind fun s =>
      (pathFault? s).or (if namesFile t s then some .usage else none)
  | "--capsules" => (a.values option).findSome? pathFault?
  | "--output" => (a.value? option).bind pathFault?
  | "--timeout" =>
    (a.value? option).bind fun s => if (seconds? s).isNone then some .usage else none
  | _ => none

/-- The first fault in the options in their order, then in the other words, of which there are at
most `count`. -/
def check (t : FileTree) (a : Arguments) (count : Nat) : Except RequestFault Unit :=
  let faults := (a.given.map (·.option)).findSome? (optionFault? t a)
  match faults.or ((a.others.take count).findSome? pathFault?) with
  | some fault => .error fault
  | none => if count < a.others.length then .error .usage else .ok ()

def projectOptionsOf (a : Arguments) : ProjectOptions where
  project := Path.ofText ((a.value? "--project").getD ".")
  capsuleFiles := (a.values "--capsules").map Path.ofText

def compileOptionsOf (a : Arguments) : CompileOptions where
  toProjectOptions := projectOptionsOf a
  composition := a.others.head?.map Path.ofText
  platforms := a.values "--platform"
  output := (a.value? "--output").map Path.ofText
  theme := a.value? "--theme"
  timeout := (a.value? "--timeout").bind seconds?
  dryRun := a.has "--dry-run"
  asJson := a.has "--json"
  verbose := a.has "--verbose"

/-- The words behind the name of a command; asking for help comes before everything but unknown
options. -/
def ofCommand (t : FileTree) (specs : List OptionSpec) (count : Nat) (words : List String)
    (make : Arguments → Request) : Except RequestFault Request :=
  match Arguments.read specs true words with
  | .error _ => .error .usage
  | .ok a =>
    if a.has "--help" then .ok .help
    else do
      check t a count
      return make a

/-- What a command line asks for. -/
def ofWords (t : FileTree) (words : List String) : Except RequestFault Request :=
  match Arguments.read [helpOption, versionOption] false words with
  | .error _ => .error .usage
  | .ok a =>
    match a.given, a.others with
    | g :: _, _ => .ok (if g.option = "--version" then .version else .help)
    | [], "compile" :: rest =>
      ofCommand t compileOptions 1 rest fun a => .compile (compileOptionsOf a)
    | [], "platforms" :: rest => ofCommand t [helpOption] 0 rest fun _ => .platforms
    | [], "capsules" :: rest =>
      ofCommand t projectOptions 0 rest fun a => .capsules (projectOptionsOf a)
    | [], _ => .error .usage

end Request

end CapsuleKit.Console

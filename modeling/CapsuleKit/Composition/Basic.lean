import CapsuleKit.Composition.Instance

/-!
# Compositions

A composition is an app to compile: instances, as a tree below `root`, as a flat list, or both, with
a theme, the target platforms and an overlay of options for each platform.
-/

namespace CapsuleKit

open Schema

structure Composition where
  name : String
  description : String := ""
  version : String := "1.0.0"
  targets : List String := []
  root : Option Instance := none
  capsules : List Instance := []
  theme : Theme := {}
  platformConfig : List (String × List (String × Value)) := []

namespace Composition

def build (fs : Fields) : Checked Composition :=
  Composition.mk <$> fs.required (.plain "name") text <*>
    fs.withDefault (.plain "description") "" text <*>
    fs.withDefault (.plain "version") "1.0.0" text <*>
    fs.withDefault (.plain "targets") [] (list text) <*>
    fs.withDefault (.plain "root") none (nullable Instance.decode) <*>
    fs.withDefault (.plain "capsules") [] (list Instance.decode) <*>
    fs.withDefault (.plain "theme") {} Theme.decode <*>
    fs.withDefault ⟨"platformConfig", "platform_config"⟩ [] (dict (dict any))

def decode : Decoder Composition := model build

def toValue (c : Composition) : Value :=
  .object [("name", .text c.name), ("description", .text c.description),
    ("version", .text c.version), ("targets", .ofTexts c.targets),
    ("root", match c.root with
      | some i => i.toValue
      | none => .null),
    ("capsules", .list (c.capsules.map (·.toValue))), ("theme", c.theme.toValue),
    ("platformConfig", .object (c.platformConfig.map fun p => (p.1, .object p.2)))]

/-- The instances of the page: the root, else the flat list. -/
def topLevel (c : Composition) : List Instance :=
  match c.root with
  | some i => [i]
  | none => c.capsules

/-- The options that are given for a platform. -/
def overlay (c : Composition) (platform : String) : List (String × Value) :=
  (c.platformConfig.lookup platform).getD []

end Composition

end CapsuleKit

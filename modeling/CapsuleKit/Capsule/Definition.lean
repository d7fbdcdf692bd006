import CapsuleKit.Capsule.Template
import CapsuleKit.Theme.Basic

/-!
# Capsule definitions

A capsule is a reusable component: a schema of props and, for each platform that it supports, a
template with source text. `Definition.decode` reads a definition from a document,
`Definition.toValue` writes it back.
-/

namespace CapsuleKit

open Schema

/-- One entry of the prop schema of a capsule. -/
structure PropSchema where
  name : String
  type : String := "string"
  required : Bool := false
  default : Value := .null
  options : List String := []
  description : Option String := none

/-- The source of a capsule for one platform. -/
structure Template where
  framework : String
  code : String := ""
  dependencies : List String := []
  imports : List String := []
  minVersion : Option String := none
  minSdk : Option Int := none
  deriving DecidableEq

/-- A capsule. The platforms it has a template for are those it supports. -/
structure Definition where
  id : String
  name : String
  description : String := ""
  category : String := "ui"
  tags : List String := []
  version : String := "1.0.0"
  props : List PropSchema := []
  platforms : List (String × Template) := []
  acceptsChildren : Bool := false
  slots : List String := []

namespace PropSchema

/-- Actions are callbacks, which the app supplies itself. -/
def isAction (p : PropSchema) : Bool :=
  p.type == "action"

def build (fs : Fields) : Checked PropSchema :=
  PropSchema.mk <$> fs.required (.plain "name") text <*>
    fs.withDefault (.plain "type") "string" text <*>
    fs.withDefault (.plain "required") false bool <*>
    fs.withDefault (.plain "default") .null any <*>
    fs.withDefault (.plain "options") [] (list text) <*> fs.text? (.plain "description")

def decode : Decoder PropSchema := model build

def toValue (p : PropSchema) : Value :=
  .object [("name", .text p.name), ("type", .text p.type), ("required", .bool p.required),
    ("default", p.default), ("options", .ofTexts p.options),
    ("description", .ofText? p.description)]

end PropSchema

namespace Template

def build (fs : Fields) : Checked Template :=
  Template.mk <$> fs.required (.plain "framework") text <*>
    fs.withDefault (.plain "code") "" text <*>
    fs.withDefault (.plain "dependencies") [] (list text) <*>
    fs.withDefault (.plain "imports") [] (list text) <*>
    fs.text? ⟨"minVersion", "min_version"⟩ <*>
    fs.withDefault ⟨"minSdk", "min_sdk"⟩ none (nullable int)

def decode : Decoder Template := model build

def toValue (t : Template) : Value :=
  .object [("framework", .text t.framework), ("code", .text t.code),
    ("dependencies", .ofTexts t.dependencies), ("imports", .ofTexts t.imports),
    ("minVersion", .ofText? t.minVersion),
    ("minSdk", match t.minSdk with
      | some n => .int n
      | none => .null)]

/-- The source with the values in place of their names. -/
def render (t : Template) (values : List (String × String)) : String :=
  fill values t.code

end Template

namespace Definition

def build (fs : Fields) : Checked Definition :=
  Definition.mk <$> fs.required (.plain "id") nonEmptyText <*>
    fs.required (.plain "name") text <*> fs.withDefault (.plain "description") "" text <*>
    fs.withDefault (.plain "category") "ui" text <*>
    fs.withDefault (.plain "tags") [] (list text) <*>
    fs.withDefault (.plain "version") "1.0.0" text <*>
    fs.withDefault (.plain "props") [] (list PropSchema.decode) <*>
    fs.withDefault (.plain "platforms") [] (dict Template.decode) <*>
    fs.withDefault ⟨"acceptsChildren", "accepts_children"⟩ false bool <*>
    fs.withDefault (.plain "slots") [] (list text)

def decode : Decoder Definition := model build

def toValue (d : Definition) : Value :=
  .object [("id", .text d.id), ("name", .text d.name), ("description", .text d.description),
    ("category", .text d.category), ("tags", .ofTexts d.tags), ("version", .text d.version),
    ("props", .list (d.props.map (·.toValue))),
    ("platforms", .object (d.platforms.map fun p => (p.1, p.2.toValue))),
    ("acceptsChildren", .bool d.acceptsChildren), ("slots", .ofTexts d.slots)]

/-- The first schema entry of a name. -/
def prop? (d : Definition) (name : String) : Option PropSchema :=
  d.props.find? (·.name == name)

/-- The props that have to be set. -/
def requiredProps (d : Definition) : List PropSchema :=
  d.props.filter (·.required)

/-- The template for a platform. -/
def template? (d : Definition) (platform : String) : Option Template :=
  d.platforms.lookup platform

/-- The type of a prop by the schema. -/
def propType? (d : Definition) (name : String) : Option String :=
  (d.prop? name).map (·.type)

end Definition

end CapsuleKit

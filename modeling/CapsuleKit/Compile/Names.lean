import CapsuleKit.Capsule.Definition
import CapsuleKit.Composition.Basic
import CapsuleKit.Text.Basic

/-!
# Names in generated code

Component names, app names and version texts fall back to a fixed word where a name has no ASCII
letter or digit.
-/

namespace CapsuleKit

open Text (nonEmptyOr)

/-- The type name of a capsule: `Data Table` gives `DataTable`. -/
def Definition.componentName (d : Definition) : String :=
  let name := nonEmptyOr (Text.pascalCase d.name) (Text.pascalCase d.id)
  nonEmptyOr (Text.identifier name) "Capsule"

namespace Composition

/-- The app's name for packages: `My App` gives `my-app`. -/
def slug (c : Composition) : String :=
  nonEmptyOr (Text.kebabCase c.name) "app"

/-- The app's name for types: `My App` gives `MyApp`. -/
def typeName (c : Composition) : String :=
  nonEmptyOr (Text.identifier (Text.pascalCase c.name)) "App"

end Composition

end CapsuleKit

import CapsuleKit.Schema.Decode

/-!
# Themes

A theme gives colours, fonts and metrics to an app. Every token is optional. `Theme.decode` reads a
theme from a document and `Theme.toValue` writes it back with all members present.
-/

namespace CapsuleKit

structure TextColors where
  primary : Option String := none
  secondary : Option String := none
  disabled : Option String := none
  deriving DecidableEq

structure ThemeColors where
  primary : Option String := none
  secondary : Option String := none
  accent : Option String := none
  background : Option String := none
  surface : Option String := none
  error : Option String := none
  success : Option String := none
  warning : Option String := none
  text : TextColors := {}
  deriving DecidableEq

structure Typography where
  fontFamily : Option String := none
  headingFont : Option String := none
  monoFont : Option String := none
  scale : Option String := none
  deriving DecidableEq

structure Theme where
  name : String := "default"
  colors : ThemeColors := {}
  typography : Typography := {}
  spacing : Option String := none
  borderRadius : Option String := none
  shadows : Bool := true
  deriving DecidableEq

open Schema

/-- An optional text member. -/
def Schema.Fields.text? (fs : Fields) (s : Spelling) : Checked (Option String) :=
  fs.withDefault s none (nullable text)

namespace TextColors

def build (fs : Fields) : Checked TextColors :=
  TextColors.mk <$> fs.text? (.plain "primary") <*> fs.text? (.plain "secondary") <*>
    fs.text? (.plain "disabled")

def decode : Decoder TextColors := model build

def toValue (c : TextColors) : Value :=
  .object [("primary", .ofText? c.primary), ("secondary", .ofText? c.secondary),
    ("disabled", .ofText? c.disabled)]

end TextColors

namespace ThemeColors

def build (fs : Fields) : Checked ThemeColors :=
  ThemeColors.mk <$> fs.text? (.plain "primary") <*> fs.text? (.plain "secondary") <*>
    fs.text? (.plain "accent") <*> fs.text? (.plain "background") <*>
    fs.text? (.plain "surface") <*> fs.text? (.plain "error") <*> fs.text? (.plain "success") <*>
    fs.text? (.plain "warning") <*> fs.withDefault (.plain "text") {} TextColors.decode

def decode : Decoder ThemeColors := model build

def toValue (c : ThemeColors) : Value :=
  .object [("primary", .ofText? c.primary), ("secondary", .ofText? c.secondary),
    ("accent", .ofText? c.accent), ("background", .ofText? c.background),
    ("surface", .ofText? c.surface), ("error", .ofText? c.error),
    ("success", .ofText? c.success), ("warning", .ofText? c.warning), ("text", c.text.toValue)]

end ThemeColors

namespace Typography

def build (fs : Fields) : Checked Typography :=
  Typography.mk <$> fs.text? ⟨"fontFamily", "font_family"⟩ <*>
    fs.text? ⟨"headingFont", "heading_font"⟩ <*> fs.text? ⟨"monoFont", "mono_font"⟩ <*>
    fs.text? (.plain "scale")

def decode : Decoder Typography := model build

def toValue (t : Typography) : Value :=
  .object [("fontFamily", .ofText? t.fontFamily), ("headingFont", .ofText? t.headingFont),
    ("monoFont", .ofText? t.monoFont), ("scale", .ofText? t.scale)]

end Typography

namespace Theme

def build (fs : Fields) : Checked Theme :=
  Theme.mk <$> fs.withDefault (.plain "name") "default" text <*>
    fs.withDefault (.plain "colors") {} ThemeColors.decode <*>
    fs.withDefault (.plain "typography") {} Typography.decode <*> fs.text? (.plain "spacing") <*>
    fs.text? ⟨"borderRadius", "border_radius"⟩ <*> fs.withDefault (.plain "shadows") true bool

def decode : Decoder Theme := model build

def toValue (t : Theme) : Value :=
  .object [("name", .text t.name), ("colors", t.colors.toValue),
    ("typography", t.typography.toValue), ("spacing", .ofText? t.spacing),
    ("borderRadius", .ofText? t.borderRadius), ("shadows", .bool t.shadows)]

end Theme

end CapsuleKit

import CapsuleKit.Theme.Color
import CapsuleKit.Theme.Tokens

/-!
# Themes as style sheets

`Theme.css` writes a theme as a block of seventeen custom properties: eleven colours, three fonts,
the spacing scale, the corner radius and the shadow.
-/

namespace CapsuleKit.Theme

/-- The font of running text in a style sheet. -/
def cssFont (t : Theme) : String :=
  Css.font t.typography.fontFamily "Inter"

/-- The custom properties with their values, in order. -/
def cssDeclarations (t : Theme) : List (String × String) :=
  (t.colorTokens.map fun p => ("color-" ++ p.1.cssName, Css.color p.2)) ++
    [("font-family", t.cssFont ++ ", system-ui, sans-serif"),
     ("font-heading", Css.font t.typography.headingFont t.cssFont ++ ", system-ui, sans-serif"),
     ("font-mono", Css.font t.typography.monoFont "ui-monospace" ++ ", monospace"),
     ("spacing-scale", t.spacingScale.text),
     ("radius-base", decimalText t.radius ++ "px"),
     ("shadow-base", if t.shadows then "0 1px 3px rgba(0, 0, 0, 0.12)" else "none")]

/-- The `:root` block of a theme. -/
def css (t : Theme) : String :=
  String.intercalate "\n"
    (":root \x7b" :: (t.cssDeclarations.map fun d => "  --" ++ d.1 ++ ": " ++ d.2 ++ ";") ++
      ["\x7d"])

end CapsuleKit.Theme

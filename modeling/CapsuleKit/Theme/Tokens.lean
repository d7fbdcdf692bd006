import CapsuleKit.Number.Shortest
import CapsuleKit.Text.Words
import CapsuleKit.Theme.Basic

/-!
# Theme tokens

The eleven colour tokens of a theme in their canonical order, with defaults for those a theme leaves
out (`Theme.colorTokens`), and the metrics: the spacing scale and the corner radius.
-/

namespace CapsuleKit

/-- The tokens of a theme's colours. -/
inductive ColorToken where
  | primary
  | secondary
  | accent
  | background
  | surface
  | error
  | success
  | warning
  | textPrimary
  | textSecondary
  | textDisabled
  deriving DecidableEq

namespace ColorToken

/-- All tokens in canonical order. -/
def all : List ColorToken :=
  [.primary, .secondary, .accent, .background, .surface, .error, .success, .warning,
   .textPrimary, .textSecondary, .textDisabled]

/-- The name of a token, its parts divided by a point. -/
def name : ColorToken → String
  | .primary => "primary"
  | .secondary => "secondary"
  | .accent => "accent"
  | .background => "background"
  | .surface => "surface"
  | .error => "error"
  | .success => "success"
  | .warning => "warning"
  | .textPrimary => "text.primary"
  | .textSecondary => "text.secondary"
  | .textDisabled => "text.disabled"

/-- The colour of a token that a theme does not give. -/
def default : ColorToken → String
  | .primary => "#3b82f6"
  | .secondary => "#8b5cf6"
  | .accent => "#06b6d4"
  | .background => "#ffffff"
  | .surface => "#f8fafc"
  | .error => "#ef4444"
  | .success => "#22c55e"
  | .warning => "#f59e0b"
  | .textPrimary => "#0f172a"
  | .textSecondary => "#64748b"
  | .textDisabled => "#94a3b8"

/-- The colour that a theme gives to a token. -/
def given (t : Theme) : ColorToken → Option String
  | .primary => t.colors.primary
  | .secondary => t.colors.secondary
  | .accent => t.colors.accent
  | .background => t.colors.background
  | .surface => t.colors.surface
  | .error => t.colors.error
  | .success => t.colors.success
  | .warning => t.colors.warning
  | .textPrimary => t.colors.text.primary
  | .textSecondary => t.colors.text.secondary
  | .textDisabled => t.colors.text.disabled

/-- The name of a token in a style sheet, its parts divided by `-`. -/
def cssName (k : ColorToken) : String :=
  Text.kebabCase k.name

/-- The name of a constant for a token, starting with a capital. -/
def pascalName (k : ColorToken) : String :=
  Text.pascalCase k.name

end ColorToken

namespace Theme

/-- The colour of a token, its default when the theme gives none or an empty text. -/
def color (t : Theme) (k : ColorToken) : String :=
  match k.given t with
  | some s => if s.isEmpty then k.default else s
  | none => k.default

/-- Every token with its colour, in canonical order. -/
def colorTokens (t : Theme) : List (ColorToken × String) :=
  ColorToken.all.map fun k => (k, t.color k)

/-- The factor on all distances: compact, normal or relaxed. -/
def spacingScale (t : Theme) : Binary64 :=
  if t.spacing = some "compact" then .ofRatio false 7 8
  else if t.spacing = some "relaxed" then .ofRatio false 5 4
  else .ofRatio false 1 1

/-- The radius of corners in pixels, eight when the theme names no known one. -/
def radius (t : Theme) : Nat :=
  if t.borderRadius = some "none" then 0
  else if t.borderRadius = some "sm" then 4
  else if t.borderRadius = some "lg" then 12
  else if t.borderRadius = some "full" then 9999
  else 8

/-- Whether shadows are drawn, as a word of source code. -/
def shadowWord (t : Theme) : String :=
  if t.shadows then "true" else "false"

end Theme

end CapsuleKit

import CapsuleKit.Theme.Basic

/-!
# Theme presets

Two ready-made themes that an app may name instead of spelling out every token.
-/

namespace CapsuleKit.Theme

/-- Light surfaces with soft corners. -/
def light : Theme where
  name := "default"
  colors := {
    primary := some "#3b82f6"
    secondary := some "#8b5cf6"
    accent := some "#06b6d4"
    background := some "#ffffff"
    surface := some "#f8fafc"
    error := some "#ef4444"
    success := some "#22c55e"
    warning := some "#f59e0b"
    text := {
      primary := some "#0f172a"
      secondary := some "#64748b"
      disabled := some "#94a3b8" } }
  typography := { fontFamily := some "Inter", scale := some "normal" }
  spacing := some "normal"
  borderRadius := some "md"
  shadows := true

/-- Dark, flat surfaces. -/
def midnight : Theme where
  name := "midnight"
  colors := {
    primary := some "#818cf8"
    secondary := some "#c084fc"
    accent := some "#22d3ee"
    background := some "#0b1120"
    surface := some "#111827"
    error := some "#f87171"
    success := some "#4ade80"
    warning := some "#fbbf24"
    text := {
      primary := some "#f1f5f9"
      secondary := some "#94a3b8"
      disabled := some "#475569" } }
  typography := {
    fontFamily := some "Inter"
    headingFont := some "Space Grotesk"
    scale := some "normal" }
  spacing := some "relaxed"
  borderRadius := some "lg"
  shadows := false

/-- The presets by name. -/
def presets : List (String × Theme) :=
  [("default", light), ("midnight", midnight)]

def preset? (name : String) : Option Theme :=
  presets.lookup name

def presetNames : List String :=
  presets.map (·.1)

end CapsuleKit.Theme

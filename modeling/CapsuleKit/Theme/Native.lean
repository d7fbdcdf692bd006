import CapsuleKit.Theme.Color
import CapsuleKit.Theme.Tokens

/-!
# Themes as Swift and Kotlin source

The colours of a theme as constants of an extension of `Color` (Swift) or of an object (Kotlin), and
its metrics as an enumeration or object of their own.
-/

namespace CapsuleKit.Theme

/-- The constant of one colour token in Swift. -/
def swiftColorLine (start : String) (p : ColorToken × String) : String :=
  "    static let " ++ start ++ p.1.pascalName ++ " = " ++ (Rgb.parse p.2).swift

/-- The colours in Swift; the constants' names begin with `start`. -/
def swiftColors (t : Theme) (start : String) : String :=
  String.intercalate "\n"
    (["import SwiftUI", "", "extension Color \x7b"] ++
      t.colorTokens.map (swiftColorLine start) ++ ["\x7d"]) ++ "\n"

/-- The metrics in Swift. -/
def swiftMetrics (t : Theme) : String :=
  "import SwiftUI\n\nenum AppMetrics \x7b\n" ++
    "    static let cornerRadius: CGFloat = " ++ decimalText t.radius ++ "\n" ++
    "    static let spacingScale: CGFloat = " ++ t.spacingScale.text ++ "\n" ++
    "    static let shadowsEnabled = " ++ t.shadowWord ++ "\n\x7d\n"

/-- The constant of one colour token in Kotlin. -/
def kotlinColorLine (p : ColorToken × String) : String :=
  "    val " ++ p.1.pascalName ++ " = " ++ (Rgb.parse p.2).kotlin

/-- The colours in Kotlin, in a package. -/
def kotlinColors (t : Theme) (package : String) : String :=
  String.intercalate "\n"
    (["package " ++ package, "", "import androidx.compose.ui.graphics.Color", "",
      "object AppColors \x7b"] ++ t.colorTokens.map kotlinColorLine ++ ["\x7d"]) ++ "\n"

/-- The metrics in Kotlin, in a package. -/
def kotlinMetrics (t : Theme) (package : String) : String :=
  "package " ++ package ++ "\n\nimport androidx.compose.ui.unit.dp\n\nobject AppDimens \x7b\n" ++
    "    val CornerRadius = " ++ decimalText t.radius ++ ".dp\n" ++
    "    const val SpacingScale = " ++ t.spacingScale.text ++ "f\n" ++
    "    const val ShadowsEnabled = " ++ t.shadowWord ++ "\n\x7d\n"

end CapsuleKit.Theme

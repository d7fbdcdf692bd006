import CapsuleKit.Text.Words
import CapsuleKit.Theme.Basic

/-!
# Options of the platforms

The options that a composition may give for each platform, with their defaults. App identifiers are
names of at least two segments, divided by dots.
-/

namespace CapsuleKit

open Schema

/-- Whether a text is two or more segments divided by dots, each an ASCII letter followed by
characters of a class. -/
def isDottedName (inner : Char → Bool) (s : String) : Bool :=
  let segments := List.splitOnP (· == '.') s.toList
  2 ≤ segments.length &&
    segments.all fun segment =>
      match segment with
      | [] => false
      | c :: cs => c.isAlpha && cs.all inner

/-- A package of Kotlin code, such as `com.example.app`. -/
def isPackageName (s : String) : Bool :=
  isDottedName (fun c => c.isAlphanum || c == '_') s

/-- A bundle identifier, such as `com.example.my-app`. -/
def isBundleId (s : String) : Bool :=
  isDottedName (fun c => c.isAlphanum || c == '-') s

/-- Ten ASCII capitals and digits. -/
def isTeamId (s : String) : Bool :=
  s.toList.length == 10 && s.toList.all fun c => c.isUpper || c.isDigit

/-- The identifier of an app that gives none. -/
def defaultAppId : String := "com.capsuleforge.app"

structure WebConfig where
  framework : String := "react"
  typescript : Bool := true
  styling : String := "tailwind"
  bundler : String := "vite"
  deriving DecidableEq

structure IosConfig where
  framework : String := "swiftui"
  bundleId : String := defaultAppId
  minVersion : String := "16.0"
  teamId : Option String := none
  deriving DecidableEq

structure AndroidConfig where
  framework : String := "compose"
  packageName : String := defaultAppId
  minSdk : Int := 24
  targetSdk : Int := 34
  compileSdk : Int := 34
  deriving DecidableEq

structure DesktopConfig where
  framework : String := "tauri"
  appId : String := defaultAppId
  width : Int := 1200
  height : Int := 800
  minWidth : Int := 800
  minHeight : Int := 600
  resizable : Bool := true
  deriving DecidableEq

namespace WebConfig

def build (fs : Fields) : Checked WebConfig :=
  WebConfig.mk <$> fs.withDefault (.plain "framework") "react" text <*>
    fs.withDefault (.plain "typescript") true bool <*>
    fs.withDefault (.plain "styling") "tailwind" text <*>
    fs.withDefault (.plain "bundler") "vite" text

def decode : Decoder WebConfig := model build

def toValue (c : WebConfig) : Value :=
  .object [("framework", .text c.framework), ("typescript", .bool c.typescript),
    ("styling", .text c.styling), ("bundler", .text c.bundler)]

end WebConfig

namespace IosConfig

def build (fs : Fields) : Checked IosConfig :=
  IosConfig.mk <$> fs.withDefault (.plain "framework") "swiftui" text <*>
    fs.withDefault ⟨"bundleId", "bundle_id"⟩ defaultAppId (patternText isBundleId) <*>
    fs.withDefault ⟨"minVersion", "min_version"⟩ "16.0" text <*>
    fs.withDefault ⟨"teamId", "team_id"⟩ none (nullable (patternText isTeamId))

def decode : Decoder IosConfig := model build

def toValue (c : IosConfig) : Value :=
  .object [("framework", .text c.framework), ("bundleId", .text c.bundleId),
    ("minVersion", .text c.minVersion), ("teamId", .ofText? c.teamId)]

end IosConfig

namespace AndroidConfig

def build (fs : Fields) : Checked AndroidConfig :=
  AndroidConfig.mk <$> fs.withDefault (.plain "framework") "compose" text <*>
    fs.withDefault ⟨"packageName", "package_name"⟩ defaultAppId (patternText isPackageName) <*>
    fs.withDefault ⟨"minSdk", "min_sdk"⟩ 24 int <*>
    fs.withDefault ⟨"targetSdk", "target_sdk"⟩ 34 int <*>
    fs.withDefault ⟨"compileSdk", "compile_sdk"⟩ 34 int

def decode : Decoder AndroidConfig := model build

def toValue (c : AndroidConfig) : Value :=
  .object [("framework", .text c.framework), ("packageName", .text c.packageName),
    ("minSdk", .int c.minSdk), ("targetSdk", .int c.targetSdk), ("compileSdk", .int c.compileSdk)]

end AndroidConfig

namespace DesktopConfig

def build (fs : Fields) : Checked DesktopConfig :=
  DesktopConfig.mk <$> fs.withDefault (.plain "framework") "tauri" text <*>
    fs.withDefault ⟨"appId", "app_id"⟩ defaultAppId (patternText isBundleId) <*>
    fs.withDefault (.plain "width") 1200 int <*> fs.withDefault (.plain "height") 800 int <*>
    fs.withDefault ⟨"minWidth", "min_width"⟩ 800 int <*>
    fs.withDefault ⟨"minHeight", "min_height"⟩ 600 int <*>
    fs.withDefault (.plain "resizable") true bool

def decode : Decoder DesktopConfig := model build

def toValue (c : DesktopConfig) : Value :=
  .object [("framework", .text c.framework), ("appId", .text c.appId), ("width", .int c.width),
    ("height", .int c.height), ("minWidth", .int c.minWidth), ("minHeight", .int c.minHeight),
    ("resizable", .bool c.resizable)]

end DesktopConfig

end CapsuleKit

import CapsuleKit.Platform.Config
import CapsuleKit.Target.Ios.Version
import CapsuleKit.Target.Ios.View
import CapsuleKit.Theme.Native

/-!
# The iOS project

A Swift package with an app target: its package file, the entry, the view with the instances, the
theme, a source file for every component in use, a property list and notes.
-/

namespace CapsuleKit.Ios

/-! ### Packages -/

/-- The version of a package that names none. -/
def defaultVersion : String := "1.0.0"

/-- The length of a text up to the end of its first `://`. -/
def schemeLength? : List Char → Option Nat
  | [] => none
  | ':' :: '/' :: '/' :: _ => some 3
  | _ :: cs => (schemeLength? cs).map (· + 1)

/-- Reads `url@version`; an `@` right behind the scheme of the address, or in front, marks no
version. -/
def packageOfText (s : String) : String × String :=
  match Text.cutAtLast '@' s.toList with
  | none => (s, defaultVersion)
  | some (url, version) =>
    if (schemeLength? s.toList).getD 0 < url.length then
      (String.ofList url, Text.nonEmptyOr (String.ofList version) defaultVersion)
    else (s, defaultVersion)

/-! ### Files -/

/-- The major version of a deployment target. -/
def majorVersion (target : String) : String :=
  Text.nonEmptyOr (Version.firstPart target) "16"

def packageLine (p : String × String) : String :=
  "        .package(url: " ++ Text.quoted p.1 ++ ", from: " ++ Text.quoted p.2 ++ "),"

def dependencyLines (ps : List (String × String)) : List String :=
  if ps.isEmpty then [] else ["    dependencies: ["] ++ ps.map packageLine ++ ["    ],"]

/-- The package file. -/
def packageFile (app target : String) (packages : List (String × String)) : String :=
  Text.lines
    (["// swift-tools-version:5.9",
      "import PackageDescription",
      "",
      "let package = Package(",
      "    name: \"" ++ app ++ "\",",
      "    platforms: [.iOS(.v" ++ majorVersion target ++ ")],",
      "    products: [.executable(name: \"" ++ app ++ "\", targets: [\"" ++ app ++ "\"])],"] ++
      dependencyLines packages ++
      ["    targets: [",
       "        .executableTarget(name: \"" ++ app ++ "\", path: \"Sources/" ++ app ++ "\"),",
       "    ]",
       ")"])

/-- The lines about the team that signs the app. -/
def teamLines (c : IosConfig) : List String :=
  match c.teamId with
  | some id => ["    <key>DevelopmentTeam</key>", "    <string>" ++ Text.xmlEscape id ++ "</string>"]
  | none => []

/-- The entry of the app. -/
def appEntry (app : String) : String :=
  Text.lines
    ["import SwiftUI",
     "",
     "@main",
     "struct " ++ app ++ "App: App \x7b",
     "    var body: some Scene \x7b",
     "        WindowGroup \x7b",
     "            ContentView()",
     "        \x7d",
     "    \x7d",
     "\x7d"]

/-- The property list of the app. -/
def infoPlist (c : IosConfig) (composition : Composition) (target : String) : String :=
  Text.lines
    (["<?xml version=\"1.0\" encoding=\"UTF-8\"?>",
       "<!DOCTYPE plist PUBLIC \"-//Apple//DTD PLIST 1.0//EN\" \"http://www.apple.com/DTDs/PropertyList-1.0.dtd\">",
       "<plist version=\"1.0\">",
       "<dict>",
       "    <key>CFBundleIdentifier</key>",
       "    <string>" ++ Text.xmlEscape c.bundleId ++ "</string>",
       "    <key>CFBundleName</key>",
       "    <string>" ++ Text.xmlEscape composition.name ++ "</string>",
       "    <key>CFBundleShortVersionString</key>",
       "    <string>" ++ Text.xmlEscape composition.version ++ "</string>",
       "    <key>MinimumOSVersion</key>",
       "    <string>" ++ Text.xmlEscape target ++ "</string>"] ++
      teamLines c ++
      ["</dict>",
       "</plist>"])

def readme (composition : Composition) (target : String) : String :=
  Text.lines
    ["# " ++ composition.name,
     "",
     composition.description,
     "",
     "Generated SwiftUI app (iOS " ++ target ++ "+).",
     "",
     "## Build",
     "",
     "```bash",
     "open Package.swift",
     "swift build",
     "```",
     "",
     "The app target lives in `Sources/" ++ composition.typeName ++ "`."]

/-- The view of the page, around its rendered lines. -/
def contentView (title : String) (body : List String) : String :=
  Text.lines
    (["import SwiftUI",
       "",
       "struct ContentView: View \x7b",
       "    var body: some View \x7b",
       "        ScrollView \x7b",
       "            VStack(alignment: .leading, spacing: 16 * AppMetrics.spacingScale) \x7b"] ++
      (if body.isEmpty then [SwiftView.pad 3 0 ++ "EmptyView()"] else body) ++
      ["            \x7d",
       "            .padding()",
       "        \x7d",
       "        .background(Color.appBackground)",
       "        .navigationTitle(\"" ++ Text.escape title ++ "\")",
       "    \x7d",
       "\x7d"])

/-- The source of a component: a note, its imports, and its template filled in. -/
def componentSource (d : Definition) (t : Template) : String :=
  let imports := if t.imports.isEmpty then ["import SwiftUI"] else t.imports
  "// " ++ d.componentName ++ " - capsule " ++ d.id ++ " v" ++ d.version ++ "\n\n" ++
    Text.joinLines imports ++ "\n\n" ++
    Text.strip (t.render [("componentName", d.componentName), ("capsuleId", d.id)]) ++ "\n"

/-- The directory of the sources. -/
def sources (c : Composition) : String :=
  "Sources/" ++ c.typeName

def componentPath (c : Composition) (d : Definition) : String :=
  sources c ++ "/Components/" ++ d.componentName ++ ".swift"

/-- The lines of the instances on the page. -/
def pageLines (j : Job) : List String :=
  SwiftView.renderList j.registry j.platform 3 j.composition.topLevel

/-- The files of the project for a deployment target. -/
def filesFor (c : IosConfig) (j : Job) (target : String) : List EmitStep :=
  let app := j.composition.typeName
  let root := sources j.composition
  [emitFile "Package.swift" (packageFile app target (j.dependencies.map packageOfText)) "swift",
   emitFile (root ++ "/" ++ app ++ "App.swift") (appEntry app) "swift",
   emitUnless j.pageObstacle?
    (emitFile (root ++ "/ContentView.swift") (contentView j.composition.name (pageLines j)) "swift"),
   emitFile (root ++ "/Theme/Colors.swift") (j.composition.theme.swiftColors "app") "swift",
   emitFile (root ++ "/Theme/Metrics.swift") j.composition.theme.swiftMetrics "swift"] ++
    (j.components.map fun p =>
      emitFile (componentPath j.composition p.1) (componentSource p.1 p.2) "swift") ++
    [emitFile "Info.plist" (infoPlist c j.composition target) "xml",
     emitFile "README.md" (readme j.composition target) "markdown"]

/-- The files of the project; none if a version cannot be read. -/
def projectSteps (c : IosConfig) (j : Job) : List EmitStep :=
  match j.deploymentTarget c.minVersion with
  | .error fault => [.error fault.message]
  | .ok target => filesFor c j target

end CapsuleKit.Ios

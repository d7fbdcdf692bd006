import CapsuleKit.Target.Web.Packages
import CapsuleKit.Target.Web.Texts

/-!
# The web project

A React project for Vite: its configuration, a source file for every component in use, the page
with the instances, and the files around them. `Web.steps` lists the files in order; the parts in
which a desktop app differs are a parameter.
-/

namespace CapsuleKit.Web

/-- Development packages of every project. -/
def devPackages : List Package :=
  [("@types/react", "^18.2.0"), ("@types/react-dom", "^18.2.0"),
   ("@vitejs/plugin-react", "^4.2.0"), ("autoprefixer", "^10.4.16"), ("postcss", "^8.4.32"),
   ("tailwindcss", "^3.3.6"), ("typescript", "^5.3.0"), ("vite", "^5.0.0")]

def stylePackages : List String :=
  ["autoprefixer", "postcss", "tailwindcss"]

def typePackages : List String :=
  ["@types/react", "@types/react-dom", "typescript"]

def lintPackages : List Package :=
  [("eslint", "^8.55.0"), ("eslint-plugin-react-hooks", "^4.6.0"),
   ("eslint-plugin-react-refresh", "^0.4.5")]

def typedLintPackages : List Package :=
  [("@typescript-eslint/eslint-plugin", "^6.0.0"), ("@typescript-eslint/parser", "^6.0.0")]

/-- The development packages that the options ask for, by name. -/
def devPackagesFor (c : WebConfig) : List Package :=
  Package.sorted
    ((devPackages.filter fun p =>
        (c.usesTailwind || !stylePackages.contains p.1) &&
          (c.typescript || !typePackages.contains p.1)) ++
      lintPackages ++ (if c.typescript then typedLintPackages else []))

/-- What a project has in its package file beyond the common entries. -/
structure PackageExtras where
  scripts : List (String × String) := []
  packages : List Package := []
  devPackages : List Package := []

def scripts (c : WebConfig) : List (String × String) :=
  [("dev", "vite"), ("build", if c.typescript then "tsc && vite build" else "vite build"),
   ("lint",
    "eslint . --ext " ++ (if c.typescript then "ts,tsx" else "js,jsx") ++
      " --report-unused-disable-directives --max-warnings 0"),
   ("preview", "vite preview")]

/-- The package file as a value. -/
def packageValue (c : WebConfig) (x : PackageExtras) (j : Job) : Value :=
  .object
    [("name", .text j.composition.slug), ("version", .text j.composition.version),
     ("private", .bool true), ("type", .text "module"),
     ("scripts", Package.toValue (scripts c ++ x.scripts)),
     ("dependencies", Package.toValue (Package.sorted (x.packages.foldl Package.pin j.packages))),
     ("devDependencies", Package.toValue (devPackagesFor c ++ x.devPackages))]

/-- A value as the text of a file. -/
def jsonFile (v : Value) : String :=
  Json.pretty v ++ "\n"

/-- The source of a component: a note, its imports, and its template filled in. -/
def componentSource (d : Definition) (t : Template) : String :=
  let body := Text.strip (t.render [("componentName", d.componentName), ("capsuleId", d.id)])
  let imports := Text.joinLines t.imports
  String.intercalate "\n\n"
      (["// " ++ d.componentName ++ " - capsule " ++ d.id ++ " v" ++ d.version] ++
        (if imports.isEmpty then [] else [imports]) ++ [body]) ++ "\n"

/-- The names of the components in use. -/
def componentNames (j : Job) : List String :=
  (j.composition.usedDefinitions j.registry j.platform).map (·.componentName)

/-- The path of the source of a component. -/
def componentPath (c : WebConfig) (d : Definition) : String :=
  "src/components/" ++ d.componentName ++ "." ++ c.extension

/-- The sources of the components in use. -/
def componentSteps (c : WebConfig) (j : Job) : List EmitStep :=
  j.components.map fun p =>
    emitFile (componentPath c p.1) (componentSource p.1 p.2) (some c.language)

/-- The index that exports the components in use. -/
def componentIndex (j : Job) : String :=
  match j.components with
  | [] => "export \x7b\x7d\n"
  | ps =>
    Text.lines
      (ps.map fun p =>
        "export \x7b " ++ p.1.componentName ++ " \x7d from './" ++ p.1.componentName ++ "'")

/-- The lines of the instances on the page. -/
def pageLines (j : Job) : List String :=
  Jsx.renderList j.registry j.platform 4 j.composition.topLevel

/-- The page with the instances. -/
def page (j : Job) : String :=
  homePage (componentNames j) j.composition.name (pageLines j)

/-- The texts in which projects on this base differ. -/
structure Parts where
  package : Value
  viteConfig : String
  readme : String

/-- The files of a project in order. -/
def steps (c : WebConfig) (parts : Parts) (j : Job) : List EmitStep :=
  let language := some c.language
  [emitFile "package.json" (jsonFile parts.package) "json"] ++
    (if c.typescript then
      [emitFile "tsconfig.json" (jsonFile tsconfig) "json",
       emitFile "tsconfig.node.json" (jsonFile nodeTsconfig) "json"]
    else []) ++
    [emitFile ".eslintrc.cjs" (eslintConfig c) "javascript"] ++
    (if c.usesTailwind then
      [emitFile "tailwind.config.js" (tailwindConfig j.composition.theme) "javascript",
       emitFile "postcss.config.js" postcssConfig "javascript"]
    else []) ++
    [emitFile "vite.config.ts" parts.viteConfig "typescript",
     emitFile "index.html" (indexPage j.composition c.extension) "html",
     emitFile ("src/main." ++ c.extension) (mainEntry c) language,
     emitFile ("src/theme/ThemeProvider." ++ c.extension) (themeProvider c) language,
     emitFile ("src/App." ++ c.extension) appComponent language,
     emitFile "src/styles/globals.css" (globalStyles c j.composition.theme) "css"] ++
    componentSteps c j ++
    [emitFile ("src/components/index." ++ c.plainExtension) (componentIndex j) language,
     emitUnless j.pageObstacle? (emitFile ("src/pages/HomePage." ++ c.extension) (page j) language),
     emitFile "README.md" parts.readme "markdown",
     emitFile ".gitignore" ignoredFiles none]

/-- The files of the web project. -/
def projectSteps (c : WebConfig) (j : Job) : List EmitStep :=
  steps c ⟨packageValue c {} j, viteConfig, readme j.composition⟩ j

end CapsuleKit.Web

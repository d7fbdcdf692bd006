import CapsuleKit.Target.Web.Project

/-!
# The desktop project

The web project with its default options inside a Tauri shell: the package file, the bundler
configuration and the notes differ, and the files of the shell follow.
-/

namespace CapsuleKit

/-- The name of the shell's crate: a leading digit gets a word in front. -/
def Composition.crateName (c : Composition) : String :=
  let crate := Text.nonEmptyOr (Text.snakeCase c.name) "app"
  match crate.toList with
  | [] => crate
  | d :: _ => if d.isDigit then "app_" ++ crate else crate

namespace Desktop

/-- The port at which the shell looks for the app. -/
def devPort : String := "1420"

/-- What the package file has beyond that of a web project. -/
def packageExtras : Web.PackageExtras where
  scripts := [("tauri", "tauri"), ("tauri:dev", "tauri dev"), ("tauri:build", "tauri build")]
  packages := [("@tauri-apps/api", "^2.0.0"), ("@tauri-apps/plugin-shell", "^2.0.0")]
  devPackages := [("@tauri-apps/cli", "^2.0.0")]

/-- The bundler configuration, with the port that the shell looks at. -/
def viteConfig : String :=
  Text.lines
    ["import \x7b defineConfig \x7d from 'vite'",
     "import react from '@vitejs/plugin-react'",
     "import path from 'path'",
     "",
     "export default defineConfig(\x7b",
     "  plugins: [react()],",
     "  clearScreen: false,",
     "  server: \x7b",
     "    port: " ++ devPort ++ ",",
     "    strictPort: true,",
     "    watch: \x7b",
     "      ignored: ['**/src-tauri/**'],",
     "    \x7d,",
     "  \x7d,",
     "  resolve: \x7b",
     "    alias: \x7b",
     "      '@': path.resolve(__dirname, './src'),",
     "    \x7d,",
     "  \x7d,",
     "  build: \x7b",
     "    outDir: 'dist',",
     "    target: process.env.TAURI_ENV_PLATFORM === 'windows' ? 'chrome105' : 'safari13',",
     "  \x7d,",
     "\x7d)"]

/-- The hooks that talk to the window. -/
def windowHooks : String :=
  Text.lines
    ["import \x7b useCallback, useEffect, useState \x7d from 'react'",
     "import \x7b getCurrentWindow \x7d from '@tauri-apps/api/window'",
     "",
     "export function useTauriWindow() \x7b",
     "  const [isMaximized, setIsMaximized] = useState(false)",
     "",
     "  useEffect(() => \x7b",
     "    const appWindow = getCurrentWindow()",
     "    const refresh = () => \x7b",
     "      appWindow.isMaximized().then(setIsMaximized).catch(console.error)",
     "    \x7d",
     "",
     "    refresh()",
     "    const unlisten = appWindow.onResized(refresh)",
     "    return () => \x7b",
     "      unlisten.then((stop) => stop())",
     "    \x7d",
     "  \x7d, [])",
     "",
     "  const minimize = useCallback(() => getCurrentWindow().minimize(), [])",
     "  const toggleMaximize = useCallback(() => getCurrentWindow().toggleMaximize(), [])",
     "  const close = useCallback(() => getCurrentWindow().close(), [])",
     "  const setTitle = useCallback((title: string) => getCurrentWindow().setTitle(title), [])",
     "",
     "  return \x7b isMaximized, minimize, toggleMaximize, close, setTitle \x7d",
     "\x7d"]

def readme (c : Composition) : String :=
  Text.lines
    ["# " ++ c.name,
     "",
     c.description,
     "",
     "Generated desktop app (Tauri 2 + React).",
     "",
     "## Requirements",
     "",
     "- Node.js 18+",
     "- Rust 1.70+",
     "",
     "## Getting Started",
     "",
     "```bash",
     "npm install",
     "npm run tauri:dev",
     "```",
     "",
     "## Build",
     "",
     "```bash",
     "npm run tauri:build",
     "```"]

/-- The package file of the shell. -/
def cargoToml (c : Composition) : String :=
  Text.lines
    ["[package]",
     "name = \"" ++ c.crateName ++ "\"",
     "version = \"" ++ Text.escape c.version ++ "\"",
     "description = \"" ++ Text.escape (Text.nonEmptyOr c.description c.name) ++ "\"",
     "edition = \"2021\"",
     "",
     "[lib]",
     "name = \"" ++ c.crateName ++ "_lib\"",
     "crate-type = [\"lib\", \"cdylib\", \"staticlib\"]",
     "",
     "[build-dependencies]",
     "tauri-build = \x7b version = \"2\", features = [] \x7d",
     "",
     "[dependencies]",
     "tauri = \x7b version = \"2\", features = [] \x7d",
     "tauri-plugin-shell = \"2\"",
     "serde = \x7b version = \"1\", features = [\"derive\"] \x7d",
     "serde_json = \"1\"",
     "",
     "[profile.release]",
     "codegen-units = 1",
     "lto = true",
     "opt-level = \"s\"",
     "strip = true"]

def shellMain (crate : String) : String :=
  Text.lines
    ["// Prevents an extra console window on Windows in release",
     "#![cfg_attr(",
     "    all(not(debug_assertions), target_os = \"windows\"),",
     "    windows_subsystem = \"windows\"",
     ")]",
     "",
     "fn main() \x7b",
     "    " ++ crate ++ "_lib::run()",
     "\x7d"]

def shellLib : String :=
  Text.lines
    ["#[cfg_attr(mobile, tauri::mobile_entry_point)]",
     "pub fn run() \x7b",
     "    tauri::Builder::default()",
     "        .plugin(tauri_plugin_shell::init())",
     "        .run(tauri::generate_context!())",
     "        .expect(\"error while running tauri application\");",
     "\x7d"]

/-- The build script of the shell. -/
def shellBuild : String :=
  Text.lines ["fn main() \x7b", "    tauri_build::build()", "\x7d"]

/-- The configuration of the shell. -/
def shellConfig (c : DesktopConfig) (composition : Composition) : Value :=
  .object
    [("$schema", .text "https://schema.tauri.app/config/2"),
     ("productName", .text composition.name), ("version", .text composition.version),
     ("identifier", .text c.appId),
     ("build",
      .object
        [("beforeDevCommand", .text "npm run dev"),
         ("devUrl", .text ("http://localhost:" ++ devPort)),
         ("beforeBuildCommand", .text "npm run build"), ("frontendDist", .text "../dist")]),
     ("app",
      .object
        [("windows",
          .list
            [.object
              [("title", .text composition.name), ("width", .int c.width),
               ("height", .int c.height), ("minWidth", .int c.minWidth),
               ("minHeight", .int c.minHeight), ("resizable", .bool c.resizable),
               ("center", .bool true)]]),
         ("security", .object [("csp", .null)])]),
     ("bundle", .object [("active", .bool true), ("targets", .text "all")])]

/-- What the app may do with its window. -/
def capabilities : Value :=
  .object
    [("$schema", .text "https://schema.tauri.app/capabilities/2"), ("identifier", .text "default"),
     ("description", .text "Default capabilities for the main window"),
     ("windows", .ofTexts ["main"]),
     ("permissions",
      .ofTexts
        ["core:default", "core:window:allow-minimize", "core:window:allow-toggle-maximize",
         "core:window:allow-close", "core:window:allow-set-title", "shell:allow-open"])]

/-- A length of the window that has too many digits for the configuration. -/
def sizeObstacle? (c : DesktopConfig) : Option Json.Obstacle :=
  if [c.width, c.height, c.minWidth, c.minHeight].any Json.isOverlong then some .overlong
  else none

/-- The files of the shell. -/
def shellSteps (c : DesktopConfig) (j : Job) : List EmitStep :=
  [emitFile "src/hooks/useTauri.ts" windowHooks "typescript",
   emitFile "src-tauri/Cargo.toml" (cargoToml j.composition) "toml",
   emitUnless (sizeObstacle? c)
    (emitFile "src-tauri/tauri.conf.json" (Web.jsonFile (shellConfig c j.composition)) "json"),
   emitFile "src-tauri/build.rs" shellBuild "rust",
   emitFile "src-tauri/capabilities/default.json" (Web.jsonFile capabilities) "json",
   emitFile "src-tauri/src/main.rs" (shellMain j.composition.crateName) "rust",
   emitFile "src-tauri/src/lib.rs" shellLib "rust"]

/-- The files of the project: the web project, then the shell. -/
def projectSteps (c : DesktopConfig) (j : Job) : List EmitStep :=
  Web.steps {} ⟨Web.packageValue {} packageExtras j, viteConfig, readme j.composition⟩ j ++
    shellSteps c j

end Desktop

end CapsuleKit

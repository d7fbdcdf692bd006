import CapsuleKit.Platform.Config
import CapsuleKit.Target.Web.Jsx
import CapsuleKit.Theme.Css

/-!
# Source texts of the web project

The fixed and nearly fixed files of a Vite project, each as the text of one file.
-/

namespace CapsuleKit

namespace WebConfig

/-- The rule sets of the linter. -/
def lintRules (c : WebConfig) : List String :=
  ["eslint:recommended"] ++
    (if c.typescript then ["plugin:@typescript-eslint/recommended"] else []) ++
    ["plugin:react-hooks/recommended"]

def rootLookup (c : WebConfig) : String :=
  "document.getElementById('root')" ++ (if c.typescript then "!" else "")

def usesTailwind (c : WebConfig) : Bool :=
  c.styling == "tailwind"

/-- The extension of files with JSX. -/
def extension (c : WebConfig) : String :=
  if c.typescript then "tsx" else "jsx"

/-- The extension of files without JSX. -/
def plainExtension (c : WebConfig) : String :=
  if c.typescript then "ts" else "js"

/-- The language of the sources. -/
def language (c : WebConfig) : String :=
  if c.typescript then "typescript" else "javascript"

end WebConfig

namespace Web

/-- The import of the components that a page uses. -/
def importLine (names : List String) : String :=
  if names.isEmpty then ""
  else "import \x7b " ++ String.intercalate ", " names ++ " \x7d from '../components'\n\n"

/-- The compiler configuration of the sources. -/
def tsconfig : Value :=
  .object
    [("compilerOptions",
      .object
        [("target", .text "ES2020"), ("lib", .ofTexts ["ES2020", "DOM", "DOM.Iterable"]),
         ("module", .text "ESNext"), ("moduleResolution", .text "bundler"),
         ("jsx", .text "react-jsx"), ("strict", .bool true), ("skipLibCheck", .bool true),
         ("noEmit", .bool true), ("baseUrl", .text "."),
         ("paths", .object [("@/*", .ofTexts ["src/*"])])]),
     ("include", .ofTexts ["src"]),
     ("references", .list [.object [("path", .text "./tsconfig.node.json")]])]

/-- The compiler configuration of the build files. -/
def nodeTsconfig : Value :=
  .object
    [("compilerOptions",
      .object
        [("composite", .bool true), ("skipLibCheck", .bool true), ("module", .text "ESNext"),
         ("moduleResolution", .text "bundler"), ("allowSyntheticDefaultImports", .bool true),
         ("strict", .bool true)]),
     ("include", .ofTexts ["vite.config.ts"])]

/-- The linter configuration. -/
def eslintConfig (c : WebConfig) : String :=
  Text.lines
    (["module.exports = \x7b",
       "  root: true,",
       "  env: \x7b browser: true, es2020: true \x7d,",
       "  extends: ["] ++
      (c.lintRules.map fun name => "    '" ++ name ++ "',") ++
      ["  ],",
       "  ignorePatterns: ['dist', '.eslintrc.cjs'],"] ++
      (if c.typescript then ["  parser: '@typescript-eslint/parser',"]
      else
        ["  parserOptions: \x7b ecmaVersion: 'latest', sourceType: 'module', ecmaFeatures: \x7b jsx: true \x7d \x7d,"]) ++
      ["  plugins: ['react-refresh'],",
       "  rules: \x7b",
       "    'react-refresh/only-export-components': ['warn', \x7b allowConstantExport: true \x7d],",
       "  \x7d,",
       "\x7d"])

/-- The style configuration: every colour token is a custom property. -/
def tailwindConfig (t : Theme) : String :=
  Text.lines
    (["/** @type \x7bimport('tailwindcss').Config\x7d */",
       "export default \x7b",
       "  content: ['./index.html', './src/**/*.\x7bjs,ts,jsx,tsx\x7d'],",
       "  darkMode: 'class',",
       "  theme: \x7b",
       "    extend: \x7b",
       "      colors: \x7b"] ++
      (t.colorTokens.map fun p =>
        "        '" ++ p.1.cssName ++ "': 'var(--color-" ++ p.1.cssName ++ ")',") ++
      ["      \x7d,",
       "      fontFamily: \x7b",
       "        sans: ['var(--font-family)'],",
       "        heading: ['var(--font-heading)'],",
       "        mono: ['var(--font-mono)'],",
       "      \x7d,",
       "      borderRadius: \x7b",
       "        DEFAULT: 'var(--radius-base)',",
       "      \x7d,",
       "      boxShadow: \x7b",
       "        DEFAULT: 'var(--shadow-base)',",
       "      \x7d,",
       "    \x7d,",
       "  \x7d,",
       "  plugins: [],",
       "\x7d"])

def postcssConfig : String :=
  Text.lines
    ["export default \x7b",
     "  plugins: \x7b",
     "    tailwindcss: \x7b\x7d,",
     "    autoprefixer: \x7b\x7d,",
     "  \x7d,",
     "\x7d"]

/-- The bundler configuration. -/
def viteConfig : String :=
  Text.lines
    ["import \x7b defineConfig \x7d from 'vite'",
     "import react from '@vitejs/plugin-react'",
     "import path from 'path'",
     "",
     "export default defineConfig(\x7b",
     "  plugins: [react()],",
     "  resolve: \x7b",
     "    alias: \x7b",
     "      '@': path.resolve(__dirname, './src'),",
     "    \x7d,",
     "  \x7d,",
     "  build: \x7b",
     "    outDir: 'dist',",
     "    sourcemap: true,",
     "  \x7d,",
     "\x7d)"]

/-- The page that loads the app. -/
def indexPage (c : Composition) (extension : String) : String :=
  Text.lines
    ["<!DOCTYPE html>",
     "<html lang=\"en\">",
     "  <head>",
     "    <meta charset=\"UTF-8\" />",
     "    <meta name=\"viewport\" content=\"width=device-width, initial-scale=1.0, viewport-fit=cover\" />",
     "    <meta name=\"theme-color\" content=\"" ++ Text.htmlEscape (c.theme.color .primary) ++ "\" />",
     "    <meta name=\"description\" content=\"" ++
       Text.htmlEscape (Text.nonEmptyOr c.description c.name) ++ "\" />",
     "    <title>" ++ Text.htmlEscape c.name ++ "</title>",
     "  </head>",
     "  <body>",
     "    <div id=\"root\"></div>",
     "    <script type=\"module\" src=\"/src/main." ++ extension ++ "\"></script>",
     "  </body>",
     "</html>"]

/-- The entry of the app. -/
def mainEntry (c : WebConfig) : String :=
  Text.lines
    ["import React from 'react'",
     "import ReactDOM from 'react-dom/client'",
     "import App from './App'",
     "import './styles/globals.css'",
     "",
     "ReactDOM.createRoot(" ++ c.rootLookup ++ ").render(",
     "  <React.StrictMode>",
     "    <App />",
     "  </React.StrictMode>,",
     ")"]

/-- The start of the theme provider with types. -/
def typedProviderHeader : List String :=
  ["import React, \x7b createContext, useContext, useEffect, useState \x7d from 'react'",
   "",
   "type Theme = 'light' | 'dark' | 'system'",
   "type ResolvedTheme = 'light' | 'dark'",
   "",
   "interface ThemeContextValue \x7b",
   "  theme: Theme",
   "  setTheme: (theme: Theme) => void",
   "  resolvedTheme: ResolvedTheme",
   "\x7d",
   "",
   "interface ThemeProviderProps \x7b",
   "  children: React.ReactNode",
   "  defaultTheme?: Theme",
   "\x7d",
   "",
   "const ThemeContext = createContext<ThemeContextValue | null>(null)"]

/-- The start of the theme provider without types. -/
def plainProviderHeader : List String :=
  ["import \x7b createContext, useContext, useEffect, useState \x7d from 'react'",
   "",
   "const ThemeContext = createContext(null)"]

/-- The context that switches between light and dark colours. -/
def themeProvider (c : WebConfig) : String :=
  let pick := fun (typed plain : String) => if c.typescript then typed else plain
  Text.lines
    ((if c.typescript then typedProviderHeader else plainProviderHeader) ++
      ["",
       "export function useTheme() \x7b",
       "  const context = useContext(ThemeContext)",
       "  if (!context) \x7b",
       "    throw new Error('useTheme must be used within a ThemeProvider')",
       "  \x7d",
       "  return context",
       "\x7d",
       "",
       "export function ThemeProvider(\x7b children, defaultTheme = 'system' \x7d" ++
         pick ": ThemeProviderProps" "" ++ ") \x7b",
       "  const [theme, setTheme] = " ++ pick "useState<Theme>" "useState" ++ "(() => \x7b",
       "    if (typeof window === 'undefined') return defaultTheme",
       "    return " ++
         pick "(localStorage.getItem('theme') as Theme | null)" "localStorage.getItem('theme')" ++
         " || defaultTheme",
       "  \x7d)",
       "  const [resolvedTheme, setResolvedTheme] = " ++
         pick "useState<ResolvedTheme>" "useState" ++ "('light')",
       "",
       "  useEffect(() => \x7b",
       "    const root = window.document.documentElement",
       "    const mediaQuery = window.matchMedia('(prefers-color-scheme: dark)')",
       "",
       "    const apply = () => \x7b",
       "      " ++ pick "const resolved: ResolvedTheme" "const resolved" ++
         " = theme === 'system' ? (mediaQuery.matches ? 'dark' : 'light') : theme",
       "      setResolvedTheme(resolved)",
       "      root.classList.remove('light', 'dark')",
       "      root.classList.add(resolved)",
       "      localStorage.setItem('theme', theme)",
       "    \x7d",
       "",
       "    apply()",
       "    mediaQuery.addEventListener('change', apply)",
       "    return () => mediaQuery.removeEventListener('change', apply)",
       "  \x7d, [theme])",
       "",
       "  return (",
       "    <ThemeContext.Provider value=\x7b\x7b theme, setTheme, resolvedTheme \x7d\x7d>",
       "      \x7bchildren\x7d",
       "    </ThemeContext.Provider>",
       "  )",
       "\x7d"])

/-- The component around the page. -/
def appComponent : String :=
  Text.lines
    ["import HomePage from './pages/HomePage'",
     "import \x7b ThemeProvider \x7d from './theme/ThemeProvider'",
     "",
     "export default function App() \x7b",
     "  return (",
     "    <ThemeProvider>",
     "      <div className=\"min-h-screen bg-background text-text-primary font-sans\">",
     "        <HomePage />",
     "      </div>",
     "    </ThemeProvider>",
     "  )",
     "\x7d"]

/-- The component of the page, around its rendered lines. -/
def homePage (names : List String) (title : String) (body : List String) : String :=
  importLine names ++
    Text.lines
      (["export default function HomePage() \x7b",
         "  return (",
         "    <main className=\"min-h-screen\">",
         "      <header className=\"bg-primary text-white py-4 px-6\">",
         "        <h1 className=\"text-xl font-semibold font-heading\">" ++ Jsx.textNode title ++ "</h1>",
         "      </header>",
         "      <div className=\"container mx-auto px-4 py-8 space-y-6\">"] ++
        (if body.isEmpty then ["        \x7b/* empty */\x7d"] else body) ++
        ["      </div>",
         "    </main>",
         "  )",
         "\x7d"])

def readme (c : Composition) : String :=
  Text.lines
    ["# " ++ c.name,
     "",
     c.description,
     "",
     "Generated web project (React + Vite).",
     "",
     "## Getting Started",
     "",
     "```bash",
     "npm install",
     "npm run dev",
     "```",
     "",
     "## Build",
     "",
     "```bash",
     "npm run build",
     "npm run preview",
     "```"]

/-- The style sheet of the app. -/
def globalStyles (c : WebConfig) (t : Theme) : String :=
  (if c.usesTailwind then
    Text.lines ["@tailwind base;", "@tailwind components;", "@tailwind utilities;", ""]
  else "") ++
    t.css ++
    Text.lines
      ["",
       "",
       "body \x7b",
       "  background: var(--color-background);",
       "  color: var(--color-text-primary);",
       "  font-family: var(--font-family);",
       "\x7d"]

/-- The files that are not to be kept under version control. -/
def ignoredFiles : String :=
  Text.lines ["node_modules", "dist", "*.local", ".env", ".DS_Store"]

end Web

end CapsuleKit

import CapsuleKit.Compile.Emission
import CapsuleKit.Platform.Config
import CapsuleKit.Target.Android.Composable
import CapsuleKit.Theme.Native

/-!
# The Android project

A Gradle project of one module: its build files, the manifest, the activity, the screen with the
instances, the theme, a source file for every component in use, and notes.
-/

namespace CapsuleKit

/-- The highest of a configured level and those that the templates in use ask for. -/
def Job.minSdk (j : Job) (c : AndroidConfig) : Int :=
  ((j.components.filterMap (·.2.minSdk)).filter (· != 0)).foldl max c.minSdk

namespace Android

/-- The libraries of every project. -/
def baseDependencies : List String :=
  ["androidx.core:core-ktx:1.12.0", "androidx.activity:activity-compose:1.8.2",
   "androidx.compose.ui:ui:1.5.4", "androidx.compose.material3:material3:1.1.2"]

/-- The libraries of the project and of the capsules in use, each once. -/
def gradleDependencies (j : Job) : List String :=
  (baseDependencies ++ j.dependencies).eraseDups

def settingsGradle (name : String) : String :=
  Text.lines
    ["pluginManagement \x7b",
     "    repositories \x7b",
     "        google()",
     "        mavenCentral()",
     "        gradlePluginPortal()",
     "    \x7d",
     "\x7d",
     "",
     "dependencyResolutionManagement \x7b",
     "    repositories \x7b",
     "        google()",
     "        mavenCentral()",
     "    \x7d",
     "\x7d",
     "",
     "rootProject.name = " ++ Text.dollarQuoted name,
     "include(\":app\")"]

def rootGradle : String :=
  Text.lines
    ["plugins \x7b",
     "    id(\"com.android.application\") version \"8.2.0\" apply false",
     "    id(\"org.jetbrains.kotlin.android\") version \"1.9.21\" apply false",
     "\x7d"]

/-- The build file of the app. -/
def appGradle (c : AndroidConfig) (j : Job) : String :=
  Text.lines
    (["plugins \x7b",
       "    id(\"com.android.application\")",
       "    id(\"org.jetbrains.kotlin.android\")",
       "\x7d",
       "",
       "android \x7b",
       "    namespace = " ++ Text.dollarQuoted c.packageName,
       "    compileSdk = " ++ intText c.compileSdk,
       "",
       "    defaultConfig \x7b",
       "        applicationId = " ++ Text.dollarQuoted c.packageName,
       "        minSdk = " ++ intText (j.minSdk c),
       "        targetSdk = " ++ intText c.targetSdk,
       "        versionCode = 1",
       "        versionName = " ++ Text.dollarQuoted j.composition.version,
       "    \x7d",
       "",
       "    buildFeatures \x7b",
       "        compose = true",
       "    \x7d",
       "",
       "    composeOptions \x7b",
       "        kotlinCompilerExtensionVersion = \"1.5.7\"",
       "    \x7d",
       "\x7d",
       "",
       "dependencies \x7b"] ++
      ((gradleDependencies j).map fun s => "    implementation(" ++ Text.dollarQuoted s ++ ")") ++
      ["\x7d"])

def manifest (name : String) : String :=
  Text.lines
    ["<?xml version=\"1.0\" encoding=\"utf-8\"?>",
     "<manifest xmlns:android=\"http://schemas.android.com/apk/res/android\">",
     "    <application",
     "        android:label=\"" ++ Text.xmlAttribute name ++ "\"",
     "        android:theme=\"@android:style/Theme.Material.Light.NoActionBar\">",
     "        <activity",
     "            android:name=\".MainActivity\"",
     "            android:exported=\"true\">",
     "            <intent-filter>",
     "                <action android:name=\"android.intent.action.MAIN\" />",
     "                <category android:name=\"android.intent.category.LAUNCHER\" />",
     "            </intent-filter>",
     "        </activity>",
     "    </application>",
     "</manifest>"]

def mainActivity (package : String) : String :=
  Text.lines
    ["package " ++ package,
     "",
     "import android.os.Bundle",
     "import androidx.activity.ComponentActivity",
     "import androidx.activity.compose.setContent",
     "import " ++ package ++ ".ui.HomeScreen",
     "",
     "class MainActivity : ComponentActivity() \x7b",
     "    override fun onCreate(savedInstanceState: Bundle?) \x7b",
     "        super.onCreate(savedInstanceState)",
     "        setContent \x7b",
     "            HomeScreen()",
     "        \x7d",
     "    \x7d",
     "\x7d"]

def readme (c : AndroidConfig) (j : Job) : String :=
  Text.lines
    ["# " ++ j.composition.name,
     "",
     j.composition.description,
     "",
     "Generated Jetpack Compose app (minSdk " ++ intText (j.minSdk c) ++ ").",
     "",
     "## Build",
     "",
     "```bash",
     "./gradlew assembleDebug",
     "```"]

/-- The imports of the screen. -/
def screenImports (package : String) (names : List String) : List String :=
  ["import androidx.compose.foundation.background",
   "import androidx.compose.foundation.layout.Arrangement",
   "import androidx.compose.foundation.layout.Column",
   "import androidx.compose.foundation.layout.fillMaxSize",
   "import androidx.compose.foundation.layout.padding",
   "import androidx.compose.runtime.Composable",
   "import androidx.compose.ui.Modifier",
   "import androidx.compose.ui.unit.dp",
   "import " ++ package ++ ".ui.theme.AppColors",
   "import " ++ package ++ ".ui.theme.AppDimens"] ++
    names.map fun name => "import " ++ package ++ ".ui.components." ++ name

/-- The screen, around its rendered lines. -/
def homeScreen (package : String) (names body : List String) : String :=
  Text.lines
    (["package " ++ package ++ ".ui", ""] ++ screenImports package names ++
      ["",
       "@Composable",
       "fun HomeScreen() \x7b",
       "    Column(",
       "        modifier = Modifier.fillMaxSize().background(AppColors.Background).padding(16.dp),",
       "        verticalArrangement = Arrangement.spacedBy((16 * AppDimens.SpacingScale).dp),",
       "    ) \x7b"] ++
      body ++ ["    \x7d", "\x7d"])

/-- The source of a component: a note, its package, its imports, and its template filled in. -/
def componentSource (package : String) (d : Definition) (t : Template) : String :=
  let imports :=
    (if t.imports.isEmpty then
      ["import androidx.compose.runtime.Composable", "import androidx.compose.ui.Modifier"]
    else t.imports) ++
      ["import " ++ package ++ ".ui.theme.AppColors", "import " ++ package ++ ".ui.theme.AppDimens"]
  "// " ++ d.componentName ++ " - capsule " ++ d.id ++ " v" ++ d.version ++ "\n" ++
    "package " ++ package ++ ".ui.components\n\n" ++ Text.joinLines imports ++ "\n\n" ++
    Text.strip (t.render [("componentName", d.componentName), ("capsuleId", d.id)]) ++ "\n"

/-- The directory of the sources of a package. -/
def sourceRoot (package : String) : String :=
  "app/src/main/java/" ++
    String.ofList (package.toList.map fun c => if c = '.' then '/' else c)

def componentPath (package : String) (d : Definition) : String :=
  sourceRoot package ++ "/ui/components/" ++ d.componentName ++ ".kt"

/-- The lines of the instances on the screen. -/
def pageLines (j : Job) : List String :=
  Composable.renderList j.registry j.platform 2 j.composition.topLevel

def componentNames (j : Job) : List String :=
  (j.composition.usedDefinitions j.registry j.platform).map (·.componentName)

/-- A level that has too many digits for the build file. -/
def levelObstacle? (c : AndroidConfig) (j : Job) : Option Json.Obstacle :=
  if [c.compileSdk, j.minSdk c, c.targetSdk].any Json.isOverlong then some .overlong else none

/-- The files of the project. -/
def projectSteps (c : AndroidConfig) (j : Job) : List EmitStep :=
  let package := c.packageName
  let root := sourceRoot package
  let theme := j.composition.theme
  [emitFile "settings.gradle.kts" (settingsGradle j.composition.name) "kotlin",
   emitFile "build.gradle.kts" rootGradle "kotlin",
   emitUnless (levelObstacle? c j) (emitFile "app/build.gradle.kts" (appGradle c j) "kotlin"),
   emitFile "app/src/main/AndroidManifest.xml" (manifest j.composition.name) "xml",
   emitFile (root ++ "/MainActivity.kt") (mainActivity package) "kotlin",
   emitUnless j.pageObstacle?
    (emitFile (root ++ "/ui/HomeScreen.kt") (homeScreen package (componentNames j) (pageLines j))
      "kotlin"),
   emitFile (root ++ "/ui/theme/Color.kt") (theme.kotlinColors (package ++ ".ui.theme")) "kotlin",
   emitFile (root ++ "/ui/theme/Dimens.kt") (theme.kotlinMetrics (package ++ ".ui.theme"))
    "kotlin"] ++
    (j.components.map fun p =>
      emitFile (componentPath package p.1) (componentSource package p.1 p.2) "kotlin") ++
    [emitFile "README.md" (readme c j) "markdown"]

end Android

end CapsuleKit

import CapsuleKit.Capsule.Registry
import CapsuleKit.Text.Basic

/-!
# Built-in capsules

Button, text, card, image and video. The video capsule has no template for the phone platforms.
-/

namespace CapsuleKit.Builtin

/-- Button source for the web and desktop. -/
def buttonWeb : String :=
  Text.lines
    ["interface \x7b\x7bcomponentName\x7d\x7dProps \x7b",
     "  text: string",
     "  variant?: 'primary' | 'secondary' | 'outline'",
     "  disabled?: boolean",
     "  onPress?: () => void",
     "\x7d",
     "",
     "export function \x7b\x7bcomponentName\x7d\x7d(\x7b text, variant = 'primary', disabled = false, onPress \x7d: \x7b\x7bcomponentName\x7d\x7dProps) \x7b",
     "  const styles = \x7b",
     "    primary: 'bg-primary text-white',",
     "    secondary: 'bg-secondary text-white',",
     "    outline: 'border border-primary text-primary',",
     "  \x7d",
     "  return (",
     "    <button",
     "      className=\x7b`px-4 py-2 rounded shadow $\x7bstyles[variant]\x7d disabled:opacity-50`\x7d",
     "      disabled=\x7bdisabled\x7d",
     "      onClick=\x7bonPress\x7d",
     "    >",
     "      \x7btext\x7d",
     "    </button>",
     "  )",
     "\x7d"]

/-- Button source in Swift. -/
def buttonSwift : String :=
  Text.lines
    ["struct \x7b\x7bcomponentName\x7d\x7d: View \x7b",
     "    let text: String",
     "    var variant: String = \"primary\"",
     "    var disabled: Bool = false",
     "    var onPress: () -> Void = \x7b\x7d",
     "",
     "    var body: some View \x7b",
     "        Button(action: onPress) \x7b",
     "            Text(text)",
     "                .padding(.horizontal, 16)",
     "                .padding(.vertical, 8)",
     "                .foregroundColor(variant == \"outline\" ? .appPrimary : .white)",
     "                .background(variant == \"outline\" ? Color.clear : Color.appPrimary)",
     "                .cornerRadius(AppMetrics.cornerRadius)",
     "        \x7d",
     "        .disabled(disabled)",
     "    \x7d",
     "\x7d"]

/-- Button source in Kotlin. -/
def buttonKotlin : String :=
  Text.lines
    ["@Composable",
     "fun \x7b\x7bcomponentName\x7d\x7d(",
     "    text: String,",
     "    variant: String = \"primary\",",
     "    disabled: Boolean = false,",
     "    onPress: () -> Unit = \x7b\x7d,",
     ") \x7b",
     "    if (variant == \"outline\") \x7b",
     "        OutlinedButton(onClick = onPress, enabled = !disabled) \x7b Text(text) \x7d",
     "    \x7d else \x7b",
     "        Button(",
     "            onClick = onPress,",
     "            enabled = !disabled,",
     "            shape = RoundedCornerShape(AppDimens.CornerRadius),",
     "            colors = ButtonDefaults.buttonColors(containerColor = AppColors.Primary),",
     "        ) \x7b Text(text) \x7d",
     "    \x7d",
     "\x7d"]

def button : Definition where
  id := "button"
  name := "Button"
  description := "Pressable button with text"
  category := "ui"
  tags := ["action", "input"]
  props :=
    [{ name := "text", required := true },
     { name := "variant"
       type := "select"
       options := ["primary", "secondary", "outline"]
       default := .text "primary" },
     { name := "disabled", type := "boolean", default := .bool false },
     { name := "onPress", type := "action", required := true }]
  platforms :=
    [("web", { framework := "react", code := buttonWeb }),
     ("desktop", { framework := "tauri", code := buttonWeb }),
     ("ios", { framework := "swiftui", code := buttonSwift, imports := ["import SwiftUI"] }),
     ("android",
      { framework := "compose"
        code := buttonKotlin
        imports :=
          ["import androidx.compose.foundation.shape.RoundedCornerShape",
           "import androidx.compose.material3.Button",
           "import androidx.compose.material3.ButtonDefaults",
           "import androidx.compose.material3.OutlinedButton",
           "import androidx.compose.material3.Text",
           "import androidx.compose.runtime.Composable"] })]

/-- Text source for the web and desktop. -/
def textWeb : String :=
  Text.lines
    ["interface \x7b\x7bcomponentName\x7d\x7dProps \x7b",
     "  content: string",
     "  variant?: 'body' | 'heading' | 'caption'",
     "\x7d",
     "",
     "export function \x7b\x7bcomponentName\x7d\x7d(\x7b content, variant = 'body' \x7d: \x7b\x7bcomponentName\x7d\x7dProps) \x7b",
     "  if (variant === 'heading') \x7b",
     "    return <h2 className=\"text-2xl font-heading font-semibold\">\x7bcontent\x7d</h2>",
     "  \x7d",
     "  const tone = variant === 'caption' ? 'text-sm text-text-secondary' : 'text-base'",
     "  return <p className=\x7btone\x7d>\x7bcontent\x7d</p>",
     "\x7d"]

/-- Text source in Swift. -/
def textSwift : String :=
  Text.lines
    ["struct \x7b\x7bcomponentName\x7d\x7d: View \x7b",
     "    let content: String",
     "    var variant: String = \"body\"",
     "",
     "    var body: some View \x7b",
     "        Text(content)",
     "            .font(variant == \"heading\" ? .title2.bold() : variant == \"caption\" ? .caption : .body)",
     "            .foregroundColor(variant == \"caption\" ? .appTextSecondary : .appTextPrimary)",
     "    \x7d",
     "\x7d"]

/-- Text source in Kotlin. -/
def textKotlin : String :=
  Text.lines
    ["@Composable",
     "fun \x7b\x7bcomponentName\x7d\x7d(content: String, variant: String = \"body\") \x7b",
     "    val style = when (variant) \x7b",
     "        \"heading\" -> MaterialTheme.typography.headlineSmall",
     "        \"caption\" -> MaterialTheme.typography.bodySmall",
     "        else -> MaterialTheme.typography.bodyLarge",
     "    \x7d",
     "    Text(text = content, style = style, color = AppColors.TextPrimary)",
     "\x7d"]

def text : Definition where
  id := "text"
  name := "Text"
  description := "Body, heading or caption text"
  category := "ui"
  tags := ["typography"]
  props :=
    [{ name := "content", required := true },
     { name := "variant"
       type := "select"
       options := ["body", "heading", "caption"]
       default := .text "body" }]
  platforms :=
    [("web", { framework := "react", code := textWeb }),
     ("desktop", { framework := "tauri", code := textWeb }),
     ("ios", { framework := "swiftui", code := textSwift, imports := ["import SwiftUI"] }),
     ("android",
      { framework := "compose"
        code := textKotlin
        imports :=
          ["import androidx.compose.material3.MaterialTheme",
           "import androidx.compose.material3.Text",
           "import androidx.compose.runtime.Composable"] })]

/-- Card source for the web and desktop. -/
def cardWeb : String :=
  Text.lines
    ["import type \x7b ReactNode \x7d from 'react'",
     "",
     "interface \x7b\x7bcomponentName\x7d\x7dProps \x7b",
     "  title?: string",
     "  children?: ReactNode",
     "  footer?: ReactNode",
     "\x7d",
     "",
     "export function \x7b\x7bcomponentName\x7d\x7d(\x7b title, children, footer \x7d: \x7b\x7bcomponentName\x7d\x7dProps) \x7b",
     "  return (",
     "    <section className=\"bg-surface rounded shadow p-6 space-y-4\">",
     "      \x7btitle && <h3 className=\"text-lg font-heading font-semibold\">\x7btitle\x7d</h3>\x7d",
     "      <div className=\"space-y-3\">\x7bchildren\x7d</div>",
     "      \x7bfooter && <footer className=\"pt-4 border-t\">\x7bfooter\x7d</footer>\x7d",
     "    </section>",
     "  )",
     "\x7d"]

/-- Card source in Swift. -/
def cardSwift : String :=
  Text.lines
    ["struct \x7b\x7bcomponentName\x7d\x7d<Content: View, Footer: View>: View \x7b",
     "    var title: String? = nil",
     "    @ViewBuilder var footer: () -> Footer",
     "    @ViewBuilder var content: () -> Content",
     "",
     "    init(",
     "        title: String? = nil,",
     "        @ViewBuilder footer: @escaping () -> Footer = \x7b EmptyView() \x7d,",
     "        @ViewBuilder content: @escaping () -> Content = \x7b EmptyView() \x7d",
     "    ) \x7b",
     "        self.title = title",
     "        self.footer = footer",
     "        self.content = content",
     "    \x7d",
     "",
     "    var body: some View \x7b",
     "        VStack(alignment: .leading, spacing: 12 * AppMetrics.spacingScale) \x7b",
     "            if let title \x7b",
     "                Text(title).font(.headline)",
     "            \x7d",
     "            content()",
     "            footer()",
     "        \x7d",
     "        .padding()",
     "        .background(Color.appSurface)",
     "        .cornerRadius(AppMetrics.cornerRadius)",
     "    \x7d",
     "\x7d"]

/-- Card source in Kotlin. -/
def cardKotlin : String :=
  Text.lines
    ["@Composable",
     "fun \x7b\x7bcomponentName\x7d\x7d(",
     "    title: String? = null,",
     "    footer: @Composable () -> Unit = \x7b\x7d,",
     "    content: @Composable ColumnScope.() -> Unit = \x7b\x7d,",
     ") \x7b",
     "    Card(",
     "        shape = RoundedCornerShape(AppDimens.CornerRadius),",
     "        colors = CardDefaults.cardColors(containerColor = AppColors.Surface),",
     "    ) \x7b",
     "        Column(modifier = Modifier.padding(16.dp)) \x7b",
     "            if (title != null) \x7b",
     "                Text(text = title, style = MaterialTheme.typography.titleMedium)",
     "            \x7d",
     "            content()",
     "            footer()",
     "        \x7d",
     "    \x7d",
     "\x7d"]

def card : Definition where
  id := "card"
  name := "Card"
  description := "Surface container with an optional title and footer"
  category := "layout"
  tags := ["container", "layout"]
  props := [{ name := "title" }]
  acceptsChildren := true
  slots := ["footer"]
  platforms :=
    [("web", { framework := "react", code := cardWeb }),
     ("desktop", { framework := "tauri", code := cardWeb }),
     ("ios", { framework := "swiftui", code := cardSwift, imports := ["import SwiftUI"] }),
     ("android",
      { framework := "compose"
        code := cardKotlin
        imports :=
          ["import androidx.compose.foundation.layout.Column",
           "import androidx.compose.foundation.layout.ColumnScope",
           "import androidx.compose.foundation.layout.padding",
           "import androidx.compose.foundation.shape.RoundedCornerShape",
           "import androidx.compose.material3.Card",
           "import androidx.compose.material3.CardDefaults",
           "import androidx.compose.material3.MaterialTheme",
           "import androidx.compose.material3.Text",
           "import androidx.compose.runtime.Composable",
           "import androidx.compose.ui.Modifier",
           "import androidx.compose.ui.unit.dp"] })]

/-- Image source for the web and desktop. -/
def imageWeb : String :=
  Text.lines
    ["interface \x7b\x7bcomponentName\x7d\x7dProps \x7b",
     "  src: string",
     "  alt?: string",
     "\x7d",
     "",
     "export function \x7b\x7bcomponentName\x7d\x7d(\x7b src, alt = '' \x7d: \x7b\x7bcomponentName\x7d\x7dProps) \x7b",
     "  return <img src=\x7bsrc\x7d alt=\x7balt\x7d className=\"w-full rounded object-cover\" />",
     "\x7d"]

/-- Image source in Swift. -/
def imageSwift : String :=
  Text.lines
    ["struct \x7b\x7bcomponentName\x7d\x7d: View \x7b",
     "    let src: String",
     "    var alt: String = \"\"",
     "",
     "    var body: some View \x7b",
     "        AsyncImage(url: URL(string: src)) \x7b image in",
     "            image.resizable().scaledToFill()",
     "        \x7d placeholder: \x7b",
     "            ProgressView()",
     "        \x7d",
     "        .accessibilityLabel(alt)",
     "        .cornerRadius(AppMetrics.cornerRadius)",
     "    \x7d",
     "\x7d"]

/-- Image source in Kotlin. -/
def imageKotlin : String :=
  Text.lines
    ["@Composable",
     "fun \x7b\x7bcomponentName\x7d\x7d(src: String, alt: String = \"\") \x7b",
     "    AsyncImage(",
     "        model = src,",
     "        contentDescription = alt,",
     "        contentScale = ContentScale.Crop,",
     "        modifier = Modifier.fillMaxWidth(),",
     "    )",
     "\x7d"]

def image : Definition where
  id := "image"
  name := "Image"
  description := "Remote image"
  category := "media"
  tags := ["media"]
  props := [{ name := "src", required := true }, { name := "alt" }]
  platforms :=
    [("web", { framework := "react", code := imageWeb }),
     ("desktop", { framework := "tauri", code := imageWeb }),
     ("ios",
      { framework := "swiftui"
        code := imageSwift
        imports := ["import SwiftUI"]
        minVersion := some "15.0" }),
     ("android",
      { framework := "compose"
        code := imageKotlin
        dependencies := ["io.coil-kt:coil-compose:2.5.0"]
        imports :=
          ["import androidx.compose.foundation.layout.fillMaxWidth",
           "import androidx.compose.runtime.Composable",
           "import androidx.compose.ui.Modifier",
           "import androidx.compose.ui.layout.ContentScale",
           "import coil.compose.AsyncImage"]
        minSdk := some 21 })]

/-- Video source for the web and desktop. -/
def videoWeb : String :=
  Text.lines
    ["import ReactPlayer from 'react-player'",
     "",
     "interface \x7b\x7bcomponentName\x7d\x7dProps \x7b",
     "  src: string",
     "  autoplay?: boolean",
     "\x7d",
     "",
     "export function \x7b\x7bcomponentName\x7d\x7d(\x7b src, autoplay = false \x7d: \x7b\x7bcomponentName\x7d\x7dProps) \x7b",
     "  return <ReactPlayer url=\x7bsrc\x7d playing=\x7bautoplay\x7d controls width=\"100%\" />",
     "\x7d"]

def video : Definition where
  id := "video"
  name := "Video"
  description := "Embedded video player"
  category := "media"
  tags := ["media"]
  props :=
    [{ name := "src", required := true },
     { name := "autoplay", type := "boolean", default := .bool false }]
  platforms :=
    [("web",
      { framework := "react", code := videoWeb, dependencies := ["react-player:^2.13.0"] }),
     ("desktop",
      { framework := "tauri", code := videoWeb, dependencies := ["react-player:^2.13.0"] })]

/-- The built-in capsules in the order of registration. -/
def all : List Definition :=
  [button, text, card, image, video]

/-- A registry with the built-in capsules. -/
def registry : Registry :=
  Registry.empty.insertAll all

end CapsuleKit.Builtin

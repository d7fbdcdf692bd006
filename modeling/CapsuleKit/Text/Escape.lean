/-!
# Escaped texts

How a text is written inside a quoted literal (`escape`, `quoted`, `dollarQuoted`), inside markup
(`htmlEscape`, `xmlEscape`, `xmlAttribute`) and inside a block comment (`commentText`).
-/

namespace CapsuleKit.Text

/-- Backslash, double quote, line feed, carriage return and tab have an escape of their own. -/
def escapeChar (c : Char) : List Char :=
  if c = '\\' then ['\\', '\\']
  else if c = '"' then ['\\', '"']
  else if c = '\n' then ['\\', 'n']
  else if c = '\r' then ['\\', 'r']
  else if c = '\t' then ['\\', 't']
  else [c]

/-- A text as it stands between double quotes in source code. -/
def escape (s : String) : String :=
  String.ofList (s.toList.flatMap escapeChar)

/-- A double-quoted source literal. -/
def quoted (s : String) : String :=
  "\"" ++ escape s ++ "\""

def dollarChar (c : Char) : List Char :=
  if c = '$' then ['\\', '$'] else [c]

/-- A double-quoted literal for a language that substitutes after `$`, which is escaped too. -/
def dollarQuoted (s : String) : String :=
  "\"" ++ String.ofList ((escape s).toList.flatMap dollarChar) ++ "\""

def markupChar (quotes : List (Char × String)) (c : Char) : List Char :=
  if c = '&' then "&amp;".toList
  else if c = '<' then "&lt;".toList
  else if c = '>' then "&gt;".toList
  else
    match quotes.lookup c with
    | some s => s.toList
    | none => [c]

def markupEscape (quotes : List (Char × String)) (s : String) : String :=
  String.ofList (s.toList.flatMap (markupChar quotes))

/-- A text inside HTML, in a text node or an attribute with either quote. -/
def htmlEscape (s : String) : String :=
  markupEscape [('"', "&quot;"), ('\'', "&#x27;")] s

/-- A text node of XML. -/
def xmlEscape (s : String) : String :=
  markupEscape [] s

/-- A double-quoted attribute of XML. -/
def xmlAttribute (s : String) : String :=
  markupEscape [('"', "&quot;")] s

def openComment : List Char → List Char
  | '*' :: '/' :: cs => '*' :: ' ' :: '/' :: openComment cs
  | c :: cs => c :: openComment cs
  | [] => []

/-- A text inside a block comment: its own comment ends are broken up. -/
def commentText (s : String) : String :=
  String.ofList (openComment s.toList)

end CapsuleKit.Text

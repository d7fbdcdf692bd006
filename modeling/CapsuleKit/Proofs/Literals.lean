import CapsuleKit.Proofs.Split
import CapsuleKit.Target.Android.Composable
import CapsuleKit.Target.Ios.View
import CapsuleKit.Target.Web.Jsx
import Mathlib.Logic.Function.Basic

/-!
# Texts in literals

`Literal.scan` reads a double-quoted literal with a fixed table of escapes. It is strict: a character
that has an escape may not stand by itself, and a backslash in front of anything else is refused.
What is written character by character in a way that suits the table (`Literal.Suits`) is read back
(`Literal.scan_flatMap`). The literals of all targets are of this kind, also where `$` is escaped in
a text that has been escaped before.
-/

namespace CapsuleKit

/-! ### Reading literals -/

namespace Literal

/-- What may stand behind a backslash, and the character that it stands for. -/
abbrev Escapes := List (Char × Char)

/-- The characters that need an escape. -/
def Escapes.marks (t : Escapes) : List Char :=
  t.map (·.2)

/-- The five escapes that all targets have in common. -/
def common : Escapes :=
  [('\\', '\\'), ('"', '"'), ('n', '\n'), ('r', '\r'), ('t', '\t')]

/-- The escapes of a language that substitutes after `$`. -/
def dollar : Escapes :=
  common ++ [('$', '$')]

/-- The text of a literal behind its opening quote, and what follows its closing quote. -/
def scan (t : Escapes) : List Char → Option (List Char × List Char)
  | [] => none
  | '"' :: cs => some ([], cs)
  | '\\' :: c :: cs =>
    match t.lookup c with
    | some d => (scan t cs).map fun p => (d :: p.1, p.2)
    | none => none
  | c :: cs => if c ∈ t.marks then none else (scan t cs).map fun p => (c :: p.1, p.2)

/-- The text of a literal that takes up all of a source. -/
def read (t : Escapes) (source : String) : Option String :=
  match source.toList with
  | '"' :: cs =>
    match scan t cs with
    | some (text, []) => some (String.ofList text)
    | _ => none
  | _ => none

/-- A way to write characters that suits a table: a character is escaped if the table says so, and
only then. -/
structure Suits (t : Escapes) (write : Char → List Char) : Prop where
  quote : '"' ∈ t.marks
  backslash : '\\' ∈ t.marks
  char : ∀ c, (write c = [c] ∧ c ∉ t.marks) ∨ ∃ e, write c = ['\\', e] ∧ t.lookup e = some c

variable {t : Escapes} {write : Char → List Char}

theorem scan_escape {e c : Char} (h : t.lookup e = some c) (cs : List Char) :
    scan t ('\\' :: e :: cs) = (scan t cs).map fun p => (c :: p.1, p.2) := by
  simp [scan, h]

theorem scan_plain (h : Suits t write) {c : Char} (hc : c ∉ t.marks) (cs : List Char) :
    scan t (c :: cs) = (scan t cs).map fun p => (c :: p.1, p.2) := by
  have hquote : c ≠ '"' := by
    rintro rfl
    exact hc h.quote
  have hback : c ≠ '\\' := by
    rintro rfl
    exact hc h.backslash
  rw [scan.eq_def]
  simp [hback, hc]

theorem scan_flatMap (h : Suits t write) (cs rest : List Char) :
    scan t (cs.flatMap write ++ '"' :: rest) = some (cs, rest) := by
  induction cs with
  | nil => rfl
  | cons c cs ih =>
    rw [List.flatMap_cons, List.append_assoc]
    rcases h.char c with ⟨hw, hc⟩ | ⟨e, hw, he⟩
    · rw [hw, List.singleton_append, scan_plain h hc, ih]
      rfl
    · rw [hw, List.cons_append, List.singleton_append, scan_escape he, ih]
      rfl

theorem read_quotes (h : Suits t write) (s : String) :
    read t ("\"" ++ String.ofList (s.toList.flatMap write) ++ "\"") = some s := by
  have hchars : ("\"" ++ String.ofList (s.toList.flatMap write) ++ "\"").toList =
      '"' :: (s.toList.flatMap write ++ ['"']) := by
    simp
  rw [read, hchars]
  simp only [scan_flatMap h, String.ofList_toList]

end Literal

namespace Text

theorem suits_escapeChar : Literal.Suits Literal.common escapeChar where
  quote := by decide
  backslash := by decide
  char c := by
    unfold escapeChar
    by_cases hback : c = '\\'
    · exact .inr ⟨'\\', by simp [hback], by rw [hback]; rfl⟩
    by_cases hquote : c = '"'
    · exact .inr ⟨'"', by simp [hquote], by rw [hquote]; rfl⟩
    by_cases hfeed : c = '\n'
    · exact .inr ⟨'n', by simp [hfeed], by rw [hfeed]; rfl⟩
    by_cases hreturn : c = '\r'
    · exact .inr ⟨'r', by simp [hreturn], by rw [hreturn]; rfl⟩
    by_cases htab : c = '\t'
    · exact .inr ⟨'t', by simp [htab], by rw [htab]; rfl⟩
    · refine .inl ⟨by simp [hback, hquote, hfeed, hreturn, htab], ?_⟩
      simp [Literal.Escapes.marks, Literal.common, hback, hquote, hfeed, hreturn, htab]

/-- Escaping `$` afterwards does not reach into the escapes that are there already: they hold no
`$`. -/
theorem suits_dollarChar :
    Literal.Suits Literal.dollar fun c => (escapeChar c).flatMap dollarChar where
  quote := by decide
  backslash := by decide
  char c := by
    by_cases hdollar : c = '$'
    · exact .inr ⟨'$', by rw [hdollar]; rfl, by rw [hdollar]; rfl⟩
    rcases suits_escapeChar.char c with ⟨hw, hc⟩ | ⟨e, hw, he⟩
    · refine .inl ⟨by rw [hw, List.flatMap_singleton, dollarChar, if_neg hdollar], ?_⟩
      rw [Literal.Escapes.marks, Literal.dollar, List.map_append, List.mem_append, not_or]
      exact ⟨hc, by simpa using hdollar⟩
    · have hnot : e ≠ '$' := by
        rintro rfl
        cases he
      refine .inr ⟨e, ?_, ?_⟩
      · simp [hw, dollarChar, hnot]
      · rw [Literal.dollar, List.lookup_append, he]
        rfl

theorem read_quoted (s : String) : Literal.read Literal.common (quoted s) = some s :=
  Literal.read_quotes suits_escapeChar s

theorem read_dollarQuoted (s : String) : Literal.read Literal.dollar (dollarQuoted s) = some s := by
  rw [dollarQuoted, escape, String.toList_ofList, List.flatMap_assoc]
  exact Literal.read_quotes suits_dollarChar s

end Text

/-! ### Attributes -/

namespace Jsx

/-- The characters that cannot stand between the quotes of an attribute: the quote and the ampersand,
which starts an entity, and those that the literals of other targets escape. -/
def attributeMarks : List Char :=
  ['"', '&', '\\', '\n', '\r', '\t']

/-- The text of an attribute in quotes. There are no escapes, and a text with an ampersand is refused,
because it may hold an entity. -/
def readAttributeText (cs : List Char) : Option String :=
  let text := cs.takeWhile (· != '"')
  if cs.dropWhile (· != '"') = ['"'] ∧ '&' ∉ text then some (String.ofList text) else none

/-- The text of an attribute, in quotes or as a literal in braces. -/
def readAttribute (source : String) : Option String :=
  match source.toList with
  | '"' :: cs => readAttributeText cs
  | '\x7b' :: cs =>
    if cs.getLast? = some '\x7d' then Literal.read Literal.common (String.ofList cs.dropLast)
    else none
  | _ => none

theorem notMem_of_isPlainAttribute {s : String} (h : isPlainAttribute s = true) :
    ∀ c ∈ attributeMarks, c ∉ s.toList := by
  intro c hc hmem
  have hplain := List.all_eq_true.1 h c hmem
  simp only [attributeMarks, List.mem_cons, List.not_mem_nil, or_false] at hc
  rcases hc with rfl | rfl | rfl | rfl | rfl | rfl <;> cases hplain

theorem readAttribute_quotes {s : String} (h : isPlainAttribute s = true) :
    readAttribute ("\"" ++ s ++ "\"") = some s := by
  have hmarks := notMem_of_isPlainAttribute h
  have hquote : ∀ c ∈ s.toList, (c != '"') = true := by
    intro c hc
    rw [bne_iff_ne]
    rintro rfl
    exact hmarks '"' (by decide) hc
  have hchars : ("\"" ++ s ++ "\"").toList = '"' :: (s.toList ++ ['"']) := by simp
  have htext : (s.toList ++ ['"']).takeWhile (· != '"') = s.toList :=
    Text.takeWhile_append hquote (by simp)
  have hrest : (s.toList ++ ['"']).dropWhile (· != '"') = ['"'] :=
    Text.dropWhile_append hquote (by simp)
  rw [readAttribute, hchars]
  show readAttributeText (s.toList ++ ['"']) = some s
  rw [readAttributeText, htext, hrest, if_pos ⟨rfl, hmarks '&' (by decide)⟩, String.ofList_toList]

theorem readAttribute_braced (s : String) : readAttribute (braced (Text.quoted s)) = some s := by
  have hchars : (braced (Text.quoted s)).toList = '\x7b' :: ((Text.quoted s).toList ++ ['\x7d']) := by
    simp [braced]
  rw [readAttribute, hchars]
  simp [Text.read_quoted]

theorem attributeValue?_text {type : Option String} (htype : type ≠ some "action") (s : String) :
    (attributeValue? type (.text s) = some ("\"" ++ s ++ "\"") ∧ isPlainAttribute s = true) ∨
      attributeValue? type (.text s) = some (braced (Text.quoted s)) := by
  cases hplain : isPlainAttribute s with
  | true => exact .inl ⟨by simp [attributeValue?, htype, hplain], rfl⟩
  | false => exact .inr (by simp [attributeValue?, htype, hplain])

theorem exists_readAttribute {type : Option String} (htype : type ≠ some "action") (s : String) :
    ∃ v, attributeValue? type (.text s) = some v ∧ readAttribute v = some s := by
  rcases attributeValue?_text htype s with ⟨hvalue, hplain⟩ | hvalue
  · exact ⟨_, hvalue, readAttribute_quotes hplain⟩
  · exact ⟨_, hvalue, readAttribute_braced s⟩

end Jsx

theorem injective_of_read {α : Type} {write : String → α} (read : α → Option String)
    (h : ∀ s, read (write s) = some s) : Function.Injective write := by
  intro s t heq
  have hs := h s
  rw [heq, h t] at hs
  exact (Option.some.inj hs).symm

/-- The text of a prop that is no action survives in the literals of all targets. A strict scanner
reads it back from the two kinds of quoted literals. In JSX it stands between quotes as it is, without
any mark, or is such a literal in braces. So different texts have different literals. -/
theorem text_props_survive {type : Option String} (htype : type ≠ some "action") :
    (∀ s, Literal.read Literal.common ("\"" ++ Text.escape s ++ "\"") = some s) ∧
    (∀ s, Literal.read Literal.dollar (Text.dollarQuoted s) = some s) ∧
    (∀ s, ∃ v, Jsx.attributeValue? type (.text s) = some v ∧ Jsx.readAttribute v = some s ∧
      ((v = "\"" ++ s ++ "\"" ∧ ∀ c ∈ Jsx.attributeMarks, c ∉ s.toList) ∨
        ∃ literal, v = "\x7b" ++ literal ++ "\x7d" ∧
          Literal.read Literal.common literal = some s)) ∧
    Function.Injective (fun s => SwiftView.literal type (.text s)) ∧
    Function.Injective (fun s => Composable.literal type (.text s)) ∧
    Function.Injective fun s => Jsx.attributeValue? type (.text s) := by
  have hswift : ∀ s, SwiftView.literal type (.text s) = Text.quoted s := by
    simp [SwiftView.literal, htype]
  have hkotlin : ∀ s, Composable.literal type (.text s) = Text.dollarQuoted s := by
    simp [Composable.literal, htype]
  refine ⟨Text.read_quoted, Text.read_dollarQuoted, fun s => ?_, ?_, ?_, ?_⟩
  · rcases Jsx.attributeValue?_text htype s with ⟨hvalue, hplain⟩ | hvalue
    · exact ⟨_, hvalue, Jsx.readAttribute_quotes hplain,
        .inl ⟨rfl, Jsx.notMem_of_isPlainAttribute hplain⟩⟩
    · exact ⟨_, hvalue, Jsx.readAttribute_braced s, .inr ⟨_, rfl, Text.read_quoted s⟩⟩
  · exact injective_of_read (Literal.read Literal.common) fun s => by
      rw [hswift, Text.read_quoted]
  · exact injective_of_read (Literal.read Literal.dollar) fun s => by
      rw [hkotlin, Text.read_dollarQuoted]
  · exact injective_of_read (·.bind Jsx.readAttribute) fun s => by
      obtain ⟨v, hv, hread⟩ := Jsx.exists_readAttribute htype s
      rw [hv, Option.bind_some, hread]

/-- A backslash in front of a quote and a dollar, in a prop without a type. -/
theorem text_props_survive_marks :
    (none : Option String) ≠ some "action" ∧
      Text.dollarQuoted "\\$\"\n" = "\"\\\\\\$\\\"\\n\"" ∧
      Literal.read Literal.dollar (Text.dollarQuoted "\\$\"\n") = some "\\$\"\n" := by
  have htype : (none : Option String) ≠ some "action" := by simp
  exact ⟨htype, rfl, (text_props_survive htype).2.1 _⟩

end CapsuleKit

import CapsuleKit.Proofs.NameGrammar
import CapsuleKit.Proofs.Theme.Color
import CapsuleKit.Theme.Css
import CapsuleKit.Theme.Native
import Mathlib.Data.List.Nodup

/-!
# Themes read back from their sources

`Css.declarations` reads the declarations of a style sheet and `Source.constant?` the value of a
constant in Swift or Kotlin source, both by cutting the text and without knowledge of themes. For
every theme and token they find what was written: `Theme.lookup_declarations`,
`Theme.constant?_kotlinColors` and `Theme.constant?_swiftColors`.
-/

namespace CapsuleKit

/-! ### Readers -/

namespace Css

/-- The name and the value of a declaration, which a colon divides. -/
def declaration? (piece : List Char) : Option (String × String) :=
  (Text.cutAtFirst ':' piece).map fun p =>
    (Text.strip (String.ofList p.1), Text.strip (String.ofList p.2))

/-- The declarations of a block; each of them ends with a semicolon. -/
def declarations (sheet : String) : List (String × String) :=
  match Text.cutAtFirst '\x7b' sheet.toList with
  | none => []
  | some (_, body) => (List.splitOnP (· == ';') body).filterMap declaration?

end Css

namespace Source

/-- The constant that a line defines: its name and value stand behind a keyword. -/
def constantOf? (keyword : String) (line : List Char) : Option (String × String) :=
  let code := line.dropWhile (· == ' ')
  if keyword.toList.isPrefixOf code then
    (Text.cutAtFirst '=' (code.drop keyword.toList.length)).map fun p =>
      (Text.strip (String.ofList p.1), Text.strip (String.ofList p.2))
  else none

def constants (keyword source : String) : List (String × String) :=
  (List.splitOnP (· == '\n') source.toList).filterMap (constantOf? keyword)

/-- The value of a constant; of several definitions the last one counts. -/
def constant? (keyword source name : String) : Option String :=
  (constants keyword source).reverse.lookup name

/-! ### Constants of written lines -/

theorem constants_append_line (keyword a b : String) :
    constants keyword (a ++ "\n" ++ b) = constants keyword a ++ constants keyword b := by
  have hlist : (a ++ "\n" ++ b).toList = a.toList ++ '\n' :: b.toList := by
    simp
  rw [constants, hlist, List.splitOnP_append_cons _ _ (by decide), List.filterMap_append]
  rfl

theorem constants_lines {keyword : String} (h : constants keyword "" = []) (l : String)
    (ls : List String) :
    constants keyword (String.intercalate "\n" (l :: ls) ++ "\n") =
      (l :: ls).flatMap (constants keyword) := by
  induction ls generalizing l with
  | nil =>
    have hline := constants_append_line keyword l ""
    rw [String.append_empty, h, List.append_nil] at hline
    simp [hline]
  | cons m ms ih =>
    rw [String.intercalate_cons_cons, String.append_assoc, constants_append_line, ih]
    rfl

/-- What a written constant needs for reading: the keyword starts the code of its line, and no mark
that the reader cuts at stands in its parts. -/
structure IsWritable (keyword name value : String) : Prop where
  keyword_head : ∃ c cs, keyword.toList = c :: cs ∧ c ≠ ' ' ∧ '\n' ∉ keyword.toList
  name_marks : '=' ∉ name.toList ∧ '\n' ∉ name.toList
  name_strip : Text.strip (name ++ " ") = name
  value_marks : '\n' ∉ value.toList
  value_strip : Text.strip value = value

theorem constants_line {keyword name value : String} (h : IsWritable keyword name value) :
    constants keyword ("    " ++ keyword ++ name ++ " = " ++ value) = [(name, value)] := by
  obtain ⟨c, cs, hkey, hc, hkey'⟩ := h.keyword_head
  have hline : ("    " ++ keyword ++ name ++ " = " ++ value).toList =
      [' ', ' ', ' ', ' '] ++
        (keyword.toList ++ ((name ++ " ").toList ++ '=' :: ' ' :: value.toList)) := by
    simp
  have hmarks : ∀ d ∈ ("    " ++ keyword ++ name ++ " = " ++ value).toList,
      (d == '\n') = false := by
    intro d hd
    rw [beq_eq_false_iff_ne]
    rintro rfl
    simp [hkey', h.name_marks.2, h.value_marks] at hd
  have hname : '=' ∉ (name ++ " ").toList := by
    simp [h.name_marks.1]
  have hcode : (([' ', ' ', ' ', ' '] ++
      (keyword.toList ++ ((name ++ " ").toList ++ '=' :: ' ' :: value.toList))).dropWhile
        (· == ' ')) = keyword.toList ++ ((name ++ " ").toList ++ '=' :: ' ' :: value.toList) := by
    simp [hkey, hc]
  have hvalue : Text.strip (String.ofList (' ' :: value.toList)) = value := by
    rw [Text.strip, String.toList_ofList, Text.trimBoth_cons_of_pos (by decide)]
    exact h.value_strip
  rw [constants, List.splitOnP_eq_singleton hmarks, hline]
  simp only [List.filterMap_cons, List.filterMap_nil, constantOf?, hcode,
    List.drop_left, Text.cutAtFirst_append_cons hname, Option.map_some,
    hvalue, String.ofList_toList, h.name_strip]
  simp

end Source

/-! ### Literals and names -/

namespace Text

/-- A name of letters, digits and dashes. -/
def IsDashed (s : String) : Prop :=
  ∀ c ∈ s.toList, c.isAlphanum = true ∨ c = '-'

theorem isDashed_kebabCase (s : String) : IsDashed (kebabCase s) := by
  have hwords : ∀ w ∈ lowerWords s, IsDashed w := fun w hw c hc =>
    .inl ((isSmallWord_of_mem_lowerWords hw).isAlphanum hc)
  rw [kebabCase]
  cases hs : lowerWords s with
  | nil => simp [IsDashed]
  | cons w ws =>
    rw [hs, List.forall_mem_cons] at hwords
    rw [IsDashed, toList_intercalate_cons, List.forall_mem_append]
    refine ⟨hwords.1, fun c hc => ?_⟩
    obtain ⟨v, hv, hc⟩ := List.mem_flatMap.1 hc
    rcases List.mem_append.1 hc with hc | hc
    · exact .inr (List.mem_singleton.1 hc)
    · exact hwords.2 v hv c hc

theorem isDashed_pascalCase (s : String) : IsDashed (pascalCase s) :=
  fun c hc => .inl ((pascalCase_chars s).1 c hc)

namespace IsDashed

variable {s t : String}

theorem ofList {cs : List Char} (h : (cs.all fun c => c.isAlphanum || c == '-') = true) :
    IsDashed (String.ofList cs) := by
  intro c hc
  rw [String.toList_ofList] at hc
  simpa using List.all_eq_true.1 h c hc

theorem append (hs : IsDashed s) (ht : IsDashed t) : IsDashed (s ++ t) := by
  rw [IsDashed, String.toList_append]
  exact List.forall_mem_append.2 ⟨hs, ht⟩

theorem notMem (h : IsDashed s) {c : Char} (hc : c.isAlphanum = false) (hdash : c ≠ '-') :
    c ∉ s.toList := by
  intro hmem
  rcases h c hmem with hchar | heq
  · rw [hc] at hchar
    cases hchar
  · exact hdash heq

theorem strip_append (h : IsDashed s) {before after : String}
    (hbefore : before.toList.all isBlank = true) (hafter : after.toList.all isBlank = true) :
    strip (before ++ (s ++ after)) = s := by
  have hs : ∀ c ∈ s.toList, isBlank c = false := by
    intro c hc
    rcases h c hc with hchar | rfl
    · exact isBlank_of_isAlphanum hchar
    · decide
  rw [strip, String.toList_append, String.toList_append,
    trimBoth_append (List.all_eq_true.1 hbefore) hs (List.all_eq_true.1 hafter),
    String.ofList_toList]

theorem strip_line (h : IsDashed s) : strip ("\n  " ++ s) = s := by
  have hstrip : strip ("\n  " ++ (s ++ "")) = s := h.strip_append rfl rfl
  rwa [String.append_empty] at hstrip

end IsDashed

end Text

namespace Rgb

theorem strip_call (inner : String) :
    Text.strip ("Color(" ++ inner ++ ")") = "Color(" ++ inner ++ ")" := by
  have hlist : ("Color(" ++ inner ++ ")").toList =
      'C' :: ("olor(" ++ inner).toList ++ [')'] := by simp
  rw [Text.strip, Text.trimBoth_eq_self, String.ofList_toList]
  · intro d hd
    rw [hlist] at hd
    cases hd
    decide
  · intro d hd
    rw [hlist, List.getLast?_concat] at hd
    cases hd
    decide

theorem strip_kotlin (c : Rgb) : Text.strip c.kotlin = c.kotlin := by
  have hcall : c.kotlin =
      "Color(" ++ ("0xFF" ++ String.ofList (c.hexChars.map Char.toUpper)) ++ ")" := by
    rw [kotlin, ← String.append_assoc]
    rfl
  rw [hcall, strip_call]

theorem swift_eq (c : Rgb) : c.swift = "Color(red: " ++ fraction c.red ++ ", green: " ++
    fraction c.green ++ ", blue: " ++ fraction c.blue ++ ")" :=
  rfl

theorem strip_swift (c : Rgb) : Text.strip c.swift = c.swift := by
  have hcall : c.swift = "Color(" ++ ("red: " ++ fraction c.red ++ ", green: " ++
      fraction c.green ++ ", blue: " ++ fraction c.blue) ++ ")" := by
    simp only [swift_eq, ← String.append_assoc]
    rfl
  rw [hcall, strip_call]

theorem newline_notMem_kotlin {c : Rgb} (h : c.IsByte) : '\n' ∉ c.kotlin.toList := by
  have hdigits : '\n' ∉ c.hexChars.map Char.toUpper := by
    intro hmem
    obtain ⟨v, hv⟩ := (digits_of_ofDigits? (ofDigits?_upper h)).2.2 _ hmem
    have hnone : Text.hexValue? '\n' = none := by decide
    rw [hnone] at hv
    cases hv
  rw [kotlin, String.toList_append, String.toList_append, List.mem_append, List.mem_append]
  rintro ((hmem | hmem) | hmem)
  · exact absurd hmem (by decide)
  · rw [String.toList_ofList] at hmem
    exact hdigits hmem
  · exact absurd hmem (by decide)

theorem newline_notMem_swift {c : Rgb} (h : c.IsByte) : '\n' ∉ c.swift.toList := by
  have hfraction : ∀ {n : Nat}, n < 256 → '\n' ∉ (fraction n).toList := by
    intro n hn
    have hdigit : ∀ d : Fin 10, '\n' ≠ d.val.digitChar := by decide
    obtain ⟨a, b, c, d, htext, -⟩ := isFraction_fraction hn
    simp [htext, hdigit]
  simp only [swift_eq, String.toList_append, List.mem_append]
  rintro ((((((hmem | hmem) | hmem) | hmem) | hmem) | hmem) | hmem)
  · exact absurd hmem (by decide)
  · exact hfraction h.red hmem
  · exact absurd hmem (by decide)
  · exact hfraction h.green hmem
  · exact absurd hmem (by decide)
  · exact hfraction h.blue hmem
  · exact absurd hmem (by decide)

end Rgb

namespace ColorToken

theorem mem_all (k : ColorToken) : k ∈ all := by
  cases k <;> decide

theorem map_names :
    all.map cssName =
        ["primary", "secondary", "accent", "background", "surface", "error", "success", "warning",
         "text-primary", "text-secondary", "text-disabled"] ∧
      all.map pascalName =
        ["Primary", "Secondary", "Accent", "Background", "Surface", "Error", "Success", "Warning",
         "TextPrimary", "TextSecondary", "TextDisabled"] := by
  decide +kernel

theorem cssName_marks (k : ColorToken) : ':' ∉ ("\n  --color-" ++ k.cssName).toList ∧
    ';' ∉ ("\n  --color-" ++ k.cssName).toList ∧
      Text.strip ("\n  --color-" ++ k.cssName) = "--color-" ++ k.cssName := by
  have hname : Text.IsDashed ("--color-" ++ k.cssName) :=
    .append (.ofList rfl) (Text.isDashed_kebabCase k.name)
  have hline : "\n  --color-" ++ k.cssName = "\n  " ++ ("--color-" ++ k.cssName) := by
    rw [← String.append_assoc]
    rfl
  rw [hline]
  refine ⟨?_, ?_, ?_⟩
  · rw [String.toList_append, List.mem_append, not_or]
    exact ⟨by decide, hname.notMem rfl (by decide)⟩
  · rw [String.toList_append, List.mem_append, not_or]
    exact ⟨by decide, hname.notMem rfl (by decide)⟩
  · exact hname.strip_line

theorem pascalName_marks (k : ColorToken) {start : String} (h : start ∈ ["", "app"]) :
    '=' ∉ (start ++ k.pascalName).toList ∧ '\n' ∉ (start ++ k.pascalName).toList ∧
      Text.strip (start ++ k.pascalName ++ " ") = start ++ k.pascalName := by
  have hstart : Text.IsDashed start := by
    rcases List.mem_cons.1 h with rfl | h
    · exact .ofList rfl
    · rw [List.mem_singleton.1 h]
      exact .ofList rfl
  have hname : Text.IsDashed (start ++ k.pascalName) :=
    hstart.append (Text.isDashed_pascalCase k.name)
  have hstrip : Text.strip ("" ++ (start ++ k.pascalName ++ " ")) = start ++ k.pascalName :=
    hname.strip_append rfl rfl
  rw [String.empty_append] at hstrip
  exact ⟨hname.notMem rfl (by decide), hname.notMem rfl (by decide), hstrip⟩

theorem cssName_inj {k l : ColorToken} (h : k.cssName = l.cssName) : k = l :=
  List.inj_on_of_nodup_map (map_names.1 ▸ by decide) k.mem_all l.mem_all h

theorem pascalName_inj {k l : ColorToken} (h : k.pascalName = l.pascalName) : k = l :=
  List.inj_on_of_nodup_map (map_names.2 ▸ by decide) k.mem_all l.mem_all h

end ColorToken

/-! ### Values of a style sheet -/

namespace Css

theorem isColor_cases {cs : List Char} (h : isColor cs = true) :
    (∀ d ∈ cs, d = '#' ∨ d.isAlphanum = true) ∨
      ∃ name inner, cs = name ++ '(' :: (inner ++ [')']) ∧ (∀ d ∈ name, d.isAlphanum = true) ∧
        ∀ d ∈ inner, isArgumentChar d = true := by
  have hletter : ∀ {d : Char}, d.isAlpha = true → d.isAlphanum = true := by
    intro d hd
    simp [Char.isAlphanum, hd]
  rw [isColor.eq_def] at h
  split at h
  case h_1 ds =>
    rw [Bool.and_eq_true, List.all_eq_true] at h
    refine .inl (List.forall_mem_cons.2 ⟨.inl rfl, fun d hd => .inr ?_⟩)
    obtain ⟨v, hv⟩ := Option.isSome_iff_exists.1 (h.2 d hd)
    exact Text.isAlphanum_of_hexValue? hv
  case h_2 =>
    have hname : ∀ d ∈ cs.takeWhile Char.isAlpha, d.isAlphanum = true := fun d hd =>
      hletter (List.mem_takeWhile_imp hd)
    have hcs := List.takeWhile_append_dropWhile (p := Char.isAlpha) (l := cs)
    split at h
    case h_1 hnil =>
      rw [hnil, List.append_nil] at hcs
      rw [hcs] at hname
      exact .inl fun d hd => .inr (hname d hd)
    case h_2 rest hcons =>
      simp only [Bool.and_eq_true, beq_iff_eq, List.all_eq_true] at h
      obtain ⟨-, hlast, hinner⟩ := h
      obtain ⟨inner, rfl⟩ := List.getLast?_eq_some_iff.1 hlast
      rw [List.dropLast_concat] at hinner
      rw [hcons] at hcs
      exact .inr ⟨_, inner, hcs.symm, hname, hinner⟩
    case h_3 => simp at h

theorem mem_of_isColor {cs : List Char} (h : isColor cs = true) {d : Char} (hd : d ∈ cs) :
    d = '#' ∨ d = '(' ∨ d = ')' ∨ isArgumentChar d = true := by
  have hargument : ∀ {c : Char}, c.isAlphanum = true → isArgumentChar c = true := by
    intro c hc
    simp [isArgumentChar, hc]
  rcases isColor_cases h with hword | ⟨name, inner, rfl, hname, hinner⟩
  · exact (hword d hd).imp_right fun hchar => .inr (.inr (hargument hchar))
  · rw [List.mem_append, List.mem_cons, List.mem_append, List.mem_singleton] at hd
    rcases hd with hd | rfl | hd | rfl
    · exact .inr (.inr (.inr (hargument (hname d hd))))
    · exact .inr (.inl rfl)
    · exact .inr (.inr (.inr (hinner d hd)))
    · exact .inr (.inr (.inl rfl))

theorem semicolon_notMem_hex {c : Rgb} (h : c.IsByte) : ';' ∉ c.hex.toList := by
  rw [Rgb.hex, String.toList_ofList, List.mem_cons, not_or]
  refine ⟨by decide, fun hmem => ?_⟩
  obtain ⟨v, hv⟩ := (Rgb.digits_of_ofDigits? (Rgb.ofDigits?_hexChars h)).2.2 _ hmem
  have hnone : Text.hexValue? ';' = none := by decide
  rw [hnone] at hv
  cases hv

theorem color_marks (s : String) : ';' ∉ (color s).toList ∧ Text.strip (color s) = color s := by
  rcases color_cases s with ⟨c, hc, htext⟩ | ⟨-, hcolor, htext⟩ | ⟨-, -, htext⟩
  · have hbyte := Rgb.isByte_of_ofHex? hc
    rw [htext]
    exact ⟨semicolon_notMem_hex hbyte, Rgb.strip_of_ofHex? (Rgb.ofHex?_hex hbyte)⟩
  · rw [htext]
    refine ⟨fun hmem => ?_, Text.strip_strip s⟩
    exact absurd (mem_of_isColor hcolor hmem) (by decide)
  · rw [htext]
    exact ⟨semicolon_notMem_hex Rgb.isByte_neutral,
      Rgb.strip_of_ofHex? (Rgb.ofHex?_hex Rgb.isByte_neutral)⟩

theorem declaration?_color (k : ColorToken) {value : String} (h : Text.strip value = value) :
    declaration? ("\n  --color-" ++ k.cssName ++ ": " ++ value).toList =
      some ("--color-" ++ k.cssName, value) := by
  obtain ⟨hcolon, -, hstrip⟩ := k.cssName_marks
  have hlist : ("\n  --color-" ++ k.cssName ++ ": " ++ value).toList =
      ("\n  --color-" ++ k.cssName).toList ++ ':' :: ' ' :: value.toList := by
    simp
  have hvalue : Text.strip (String.ofList (' ' :: value.toList)) = value := by
    rw [Text.strip, String.toList_ofList, Text.trimBoth_cons_of_pos (by decide)]
    exact h
  rw [declaration?, hlist, Text.cutAtFirst_append_cons hcolon, Option.map_some, hvalue,
    String.ofList_toList, hstrip]

end Css

/-! ### Sources of a theme -/

namespace Theme

open ColorToken

theorem lookup_tokens (name value : ColorToken → String)
    (hinj : ∀ {k l}, name k = name l → k = l) {k : ColorToken} {ks : List ColorToken}
    (hk : k ∈ ks) (rest : List (String × String)) :
    ((ks.map fun l => (name l, value l)) ++ rest).lookup (name k) = some (value k) := by
  induction ks with
  | nil => cases hk
  | cons l ls ih =>
    by_cases heq : name k = name l
    · rw [hinj heq, List.map_cons, List.cons_append, List.lookup_cons_self]
    · have hne : (name k == name l) = false := beq_eq_false_iff_ne.2 heq
      have htail : k ∈ ls := by
        rcases List.mem_cons.1 hk with rfl | hmem
        · exact absurd rfl heq
        · exact hmem
      rw [List.map_cons, List.cons_append, List.lookup_cons, hne]
      exact ih htail

/-- The declaration of a colour, from the end of the line before it to its semicolon. -/
def declarationText (t : Theme) (k : ColorToken) : List Char :=
  ("\n  --color-" ++ k.cssName ++ ": " ++ Css.color (t.color k)).toList

theorem toList_css (t : Theme) :
    ∃ rest, t.css.toList = ":root ".toList ++ '\x7b' ::
      ((all.map t.declarationText).flatMap (· ++ [';']) ++ rest) := by
  have hline : ∀ k, "\n".toList ++ ("  --" ++ ("color-" ++ k.cssName) ++ ": " ++
      Css.color (t.color k) ++ ";").toList = t.declarationText k ++ [';'] := by
    intro k
    simp [declarationText]
  obtain ⟨others, hothers⟩ : ∃ others, t.cssDeclarations =
      all.map (fun k => ("color-" ++ k.cssName, Css.color (t.color k))) ++ others :=
    ⟨_, by rw [cssDeclarations, colorTokens, List.map_map]; rfl⟩
  refine ⟨(others.map (fun d => "  --" ++ d.1 ++ ": " ++ d.2 ++ ";") ++ ["\x7d"]).flatMap
    fun l => "\n".toList ++ l.toList, ?_⟩
  rw [css, hothers, List.map_append, List.cons_append, Text.toList_intercalate_cons,
    List.append_assoc, List.flatMap_append, List.map_map, List.flatMap_map, List.flatMap_map]
  simp only [Function.comp_apply, hline]
  rfl

theorem lookup_declarations (t : Theme) (k : ColorToken) :
    (Css.declarations t.css).lookup ("--color-" ++ k.cssName) = some (Css.color (t.color k)) := by
  obtain ⟨rest, hcss⟩ := t.toList_css
  have hpiece : ∀ w ∈ all.map t.declarationText, ∀ d ∈ w, (d == ';') = false := by
    intro w hw d hd
    obtain ⟨l, -, rfl⟩ := List.mem_map.1 hw
    rw [beq_eq_false_iff_ne]
    rintro rfl
    rw [declarationText, String.toList_append, List.mem_append, String.toList_append,
      List.mem_append] at hd
    rcases hd with (hname | hcolon) | hvalue
    · exact l.cssName_marks.2.1 hname
    · exact absurd hcolon (by decide)
    · exact (Css.color_marks _).1 hvalue
  have hread : (all.map t.declarationText).filterMap Css.declaration? =
      all.map fun l => ("--color-" ++ l.cssName, Css.color (t.color l)) := by
    have heach : Css.declaration? ∘ t.declarationText =
        some ∘ fun l => ("--color-" ++ l.cssName, Css.color (t.color l)) := by
      funext l
      rw [Function.comp_apply, declarationText, Css.declaration?_color l (Css.color_marks _).2]
      rfl
    rw [List.filterMap_map, heach, List.filterMap_eq_map]
  have hbrace : '\x7b' ∉ ":root ".toList := by decide
  simp only [Css.declarations, hcss, Text.cutAtFirst_append_cons hbrace]
  rw [Text.splitOnP_flatMap_append (by decide) hpiece, List.filterMap_append, hread]
  refine lookup_tokens (fun l => "--color-" ++ l.cssName) (fun l => Css.color (t.color l))
    (fun heq => ?_) k.mem_all _
  exact cssName_inj (by simpa using heq)

/-! ### Constants -/

theorem isWritable_color {keyword start literal : String} (hkey : keyword ∈ ["val ", "static let "])
    (hstart : start ∈ ["", "app"]) (k : ColorToken) (hmarks : '\n' ∉ literal.toList)
    (hstrip : Text.strip literal = literal) :
    Source.IsWritable keyword (start ++ k.pascalName) literal where
  keyword_head := by
    rcases List.mem_cons.1 hkey with rfl | hkey
    · exact ⟨_, _, rfl, by decide, by decide⟩
    · rw [List.mem_singleton.1 hkey]
      exact ⟨_, _, rfl, by decide, by decide⟩
  name_marks := ⟨(k.pascalName_marks hstart).1,
    (k.pascalName_marks hstart).2.1⟩
  name_strip := (k.pascalName_marks hstart).2.2
  value_marks := hmarks
  value_strip := hstrip

theorem constant?_lines (keyword start : String) (hkey : keyword ∈ ["val ", "static let "])
    (hstart : start ∈ ["", "app"]) (value : ColorToken → String)
    (hmarks : ∀ k, '\n' ∉ (value k).toList) (hstrip : ∀ k, Text.strip (value k) = value k)
    (l : String) (ls : List String) (k : ColorToken) :
    Source.constant? keyword (String.intercalate "\n" (l :: ls ++
      all.map (fun k => "    " ++ keyword ++ (start ++ k.pascalName) ++ " = " ++ value k) ++
        ["\x7d"]) ++ "\n") (start ++ k.pascalName) = some (value k) := by
  have hblank : Source.constants keyword "" = [] ∧ Source.constants keyword "\x7d" = [] := by
    rcases List.mem_cons.1 hkey with rfl | hkey
    · exact ⟨rfl, rfl⟩
    · rw [List.mem_singleton.1 hkey]
      exact ⟨rfl, rfl⟩
  have hline : ∀ k : ColorToken, Source.constants keyword
      ("    " ++ keyword ++ (start ++ k.pascalName) ++ " = " ++ value k) =
        [(start ++ k.pascalName, value k)] := fun k =>
    Source.constants_line (isWritable_color hkey hstart k (hmarks k) (hstrip k))
  rw [Source.constant?, List.cons_append, List.cons_append, Source.constants_lines hblank.1,
    ← List.cons_append, ← List.cons_append, List.flatMap_append, List.flatMap_append,
    List.flatMap_singleton, hblank.2, List.append_nil, List.flatMap_map]
  simp only [hline]
  rw [List.reverse_append, ← List.map_eq_flatMap, ← List.map_reverse]
  refine lookup_tokens (fun k => start ++ k.pascalName) value (fun heq => ?_)
    (List.mem_reverse.2 k.mem_all) _
  exact pascalName_inj (by simpa using heq)

theorem constant?_kotlinColors (t : Theme) (package : String) (k : ColorToken) :
    Source.constant? "val " (t.kotlinColors package) k.pascalName =
      some (Rgb.parse (t.color k)).kotlin := by
  have hvalue := constant?_lines "val " "" (.head _) (.head _)
    (fun k => (Rgb.parse (t.color k)).kotlin)
    (fun k => Rgb.newline_notMem_kotlin (Rgb.isByte_parse (t.color k)))
    (fun k => Rgb.strip_kotlin (Rgb.parse (t.color k)))
    ("package " ++ package)
    ["", "import androidx.compose.ui.graphics.Color", "", "object AppColors \x7b"] k
  have hline : (kotlinColorLine ∘ fun k => (k, t.color k)) = fun k =>
      "    " ++ "val " ++ ("" ++ k.pascalName) ++ " = " ++ (Rgb.parse (t.color k)).kotlin := by
    funext k
    rw [String.empty_append]
    rfl
  rw [String.empty_append] at hvalue
  rw [kotlinColors, colorTokens, List.map_map, hline]
  exact hvalue

theorem constant?_swiftColors (t : Theme) (k : ColorToken) :
    Source.constant? "static let " (t.swiftColors "app") ("app" ++ k.pascalName) =
      some (Rgb.parse (t.color k)).swift := by
  have hvalue := constant?_lines "static let " "app" (.tail _ (.head _)) (.tail _ (.head _))
    (fun k => (Rgb.parse (t.color k)).swift)
    (fun k => Rgb.newline_notMem_swift (Rgb.isByte_parse (t.color k)))
    (fun k => Rgb.strip_swift (Rgb.parse (t.color k)))
    "import SwiftUI" ["", "extension Color \x7b"] k
  have hline : (swiftColorLine "app" ∘ fun k => (k, t.color k)) = fun k =>
      "    " ++ "static let " ++ ("app" ++ k.pascalName) ++ " = " ++
        (Rgb.parse (t.color k)).swift := by
    funext k
    rw [← String.append_assoc]
    rfl
  rw [swiftColors, colorTokens, List.map_map, hline]
  exact hvalue

end Theme

end CapsuleKit

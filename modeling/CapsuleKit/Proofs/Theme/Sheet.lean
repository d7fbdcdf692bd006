import CapsuleKit.Proofs.Numerals
import CapsuleKit.Proofs.Theme.Sources

/-!
# Style sheets that stay one block

A theme may hold any text in any of its fields, and the style sheet is one block of seventeen
declarations all the same. What goes into a declaration is contained (`Css.IsContained`): it has none
of the marks that end a declaration or a block or start a string, a comment or a rule, and its
parentheses are balanced. Declarations of contained texts make a sheet whose marks are those of the
layout alone (`Css.count_block`), and colours, fonts and metrics are contained whatever they are made
from.
-/

namespace CapsuleKit

namespace Css

/-! ### Contained texts -/

/-- The marks by which a text could get out of its declaration. -/
def marks : List Char :=
  ['\x7b', '\x7d', ';', ':', '"', '\'', '\\', '*', '@']

/-- The parentheses that are open behind a character; none if it closes one that is not open. -/
def parenStep (n : Nat) (c : Char) : Option Nat :=
  if c = '(' then some (n + 1)
  else if c = ')' then if n = 0 then none else some (n - 1)
  else some n

def parens (n : Nat) (cs : List Char) : Option Nat :=
  cs.foldlM parenStep n

/-- Every parenthesis that is opened is closed behind it, and no other is closed. -/
def IsBalanced (cs : List Char) : Prop :=
  parens 0 cs = some 0

/-- A text that leaves as many parentheses open as it finds. -/
def KeepsParens (cs : List Char) : Prop :=
  ∀ n, parens n cs = some n

/-- A text that stays where it is written. -/
structure IsContained (cs : List Char) : Prop where
  unmarked : ∀ c ∈ cs, c ∉ marks
  parens : KeepsParens cs

theorem parens_cons (n : Nat) (c : Char) (cs : List Char) :
    parens n (c :: cs) = (parenStep n c).bind (parens · cs) :=
  List.foldlM_cons

theorem parens_append (n : Nat) (as bs : List Char) :
    parens n (as ++ bs) = (parens n as).bind (parens · bs) :=
  List.foldlM_append

namespace KeepsParens

variable {as bs : List Char}

theorem append (ha : KeepsParens as) (hb : KeepsParens bs) : KeepsParens (as ++ bs) := by
  intro n
  rw [parens_append, ha n]
  exact hb n

theorem flatMap {α : Type} {xs : List α} {f : α → List Char} (h : ∀ x ∈ xs, KeepsParens (f x)) :
    KeepsParens (xs.flatMap f) := by
  induction xs with
  | nil => exact fun _ => rfl
  | cons x xs ih =>
    obtain ⟨hx, hxs⟩ := List.forall_mem_cons.1 h
    rw [List.flatMap_cons]
    exact hx.append (ih hxs)

theorem bracketed (h : KeepsParens as) : KeepsParens ('(' :: (as ++ [')'])) := by
  intro n
  have hclose : parens (n + 1) [')'] = some n := rfl
  rw [parens_cons]
  show parens (n + 1) (as ++ [')']) = some n
  rw [parens_append, h]
  exact hclose

end KeepsParens

/-- The characters of words, numbers and lists: no marks and no parentheses. -/
def isPlainChar (c : Char) : Bool :=
  isArgumentChar c || c == '#' || c == '_' || c == '+'

theorem isPlainChar_of_isArgumentChar {c : Char} (h : isArgumentChar c = true) :
    isPlainChar c = true := by
  simp [isPlainChar, h]

theorem isPlainChar_of_isAlphanum {c : Char} (h : c.isAlphanum = true) : isPlainChar c = true :=
  isPlainChar_of_isArgumentChar (by simp [isArgumentChar, h])

theorem forall_mem_of_all {p : Char → Prop} [DecidablePred p] {cs : List Char}
    (h : (cs.all fun c => decide (p c)) = true) : ∀ c ∈ cs, p c :=
  fun c hc => of_decide_eq_true (List.all_eq_true.1 h c hc)

theorem isPlainChar_marks : ∀ m ∈ '(' :: ')' :: marks, isPlainChar m = false :=
  forall_mem_of_all (by decide)

namespace IsContained

variable {as bs : List Char}

theorem append (ha : IsContained as) (hb : IsContained bs) : IsContained (as ++ bs) where
  unmarked := List.forall_mem_append.2 ⟨ha.unmarked, hb.unmarked⟩
  parens := ha.parens.append hb.parens

theorem plain (h : ∀ c ∈ as, isPlainChar c = true) : IsContained as := by
  have hne : ∀ c ∈ as, ∀ m ∈ '(' :: ')' :: marks, c ≠ m := by
    rintro c hc m hm rfl
    have hnot := isPlainChar_marks c hm
    rw [h c hc] at hnot
    cases hnot
  refine ⟨fun c hc hmark => hne c hc c (.tail _ (.tail _ hmark)) rfl, fun n => ?_⟩
  clear h
  induction as with
  | nil => rfl
  | cons c as ih =>
    obtain ⟨hc, has⟩ := List.forall_mem_cons.1 hne
    have hstep : parenStep n c = some n := by
      rw [parenStep, if_neg (hc _ (.head _)), if_neg (hc _ (.tail _ (.head _)))]
    rw [parens_cons, hstep]
    exact ih has

theorem call (ha : IsContained as) (hb : IsContained bs) :
    IsContained (as ++ '(' :: (bs ++ [')'])) where
  unmarked := by
    refine List.forall_mem_append.2 ⟨ha.unmarked, List.forall_mem_cons.2 ⟨by decide, ?_⟩⟩
    exact List.forall_mem_append.2 ⟨hb.unmarked, List.forall_mem_singleton.2 (by decide)⟩
  parens := ha.parens.append hb.parens.bracketed

theorem of_all (h : as.all isPlainChar = true) : IsContained as :=
  plain (List.all_eq_true.1 h)

theorem ofList (h : as.all isPlainChar = true) : IsContained (String.ofList as).toList := by
  rw [String.toList_ofList]
  exact of_all h

theorem numeral {s : String} (h : IsNumeral s) : IsContained s.toList := by
  refine plain fun c hc => ?_
  have hchar := h.chars c hc
  simp only [isNumeralChar, Bool.or_eq_true, beq_iff_eq] at hchar
  rcases hchar with ((halnum | rfl) | rfl) | rfl
  · exact isPlainChar_of_isAlphanum halnum
  · decide
  · decide
  · decide

theorem dashed {s : String} (h : Text.IsDashed s) : IsContained s.toList := by
  refine plain fun c hc => ?_
  rcases h c hc with halnum | rfl
  · exact isPlainChar_of_isAlphanum halnum
  · decide

end IsContained

/-! ### Values of a theme -/

theorem isContained_hex {c : Rgb} (h : c.IsByte) : IsContained c.hex.toList := by
  rw [Rgb.hex, String.toList_ofList]
  refine .plain (List.forall_mem_cons.2 ⟨by decide, fun d hd => ?_⟩)
  obtain ⟨v, hv⟩ := (Rgb.digits_of_ofDigits? (Rgb.ofDigits?_hexChars h)).2.2 d hd
  exact isPlainChar_of_isAlphanum (Text.isAlphanum_of_hexValue? hv)

theorem isContained_of_isColor {cs : List Char} (h : isColor cs = true) : IsContained cs := by
  rcases isColor_cases h with hword | ⟨name, inner, rfl, hname, hinner⟩
  · refine .plain fun d hd => ?_
    rcases hword d hd with rfl | halnum
    · decide
    · exact isPlainChar_of_isAlphanum halnum
  · exact .call (.plain fun d hd => isPlainChar_of_isAlphanum (hname d hd))
      (.plain fun d hd => isPlainChar_of_isArgumentChar (hinner d hd))

theorem isContained_color (s : String) : IsContained (color s).toList := by
  rcases color_cases s with ⟨c, hc, htext⟩ | ⟨-, hcolor, htext⟩ | ⟨-, -, htext⟩
  · rw [htext]
    exact isContained_hex (Rgb.isByte_of_ofHex? hc)
  · rw [htext]
    exact isContained_of_isColor hcolor
  · rw [htext]
    exact isContained_hex Rgb.isByte_neutral

theorem isContained_of_isFont {cs : List Char} (h : isFont cs = true) : IsContained cs := by
  cases cs with
  | nil => cases h
  | cons c cs =>
    rw [isFont, Bool.and_eq_true, List.all_eq_true] at h
    refine .plain (List.forall_mem_cons.2 ⟨isPlainChar_of_isAlphanum h.1, fun d hd => ?_⟩)
    have hchar := h.2 d hd
    simp only [Bool.or_eq_true, beq_iff_eq] at hchar
    rcases hchar with ((((halnum | rfl) | rfl) | rfl) | rfl) | rfl
    · exact isPlainChar_of_isAlphanum halnum
    all_goals decide

theorem isContained_font (value : Option String) {default : String}
    (h : IsContained default.toList) : IsContained (font value default).toList := by
  cases value with
  | none => exact h
  | some s =>
    rw [font]
    split_ifs with hfont
    · exact isContained_of_isFont hfont
    · exact h

/-! ### Blocks -/

/-- A declaration on a line of its own, up to its semicolon. -/
def entry (d : String × String) : String :=
  "\n  " ++ d.1 ++ ": " ++ d.2

def block (ds : List (String × String)) : String :=
  ":root \x7b" ++ String.join (ds.map fun d => entry d ++ ";") ++ "\n\x7d"

/-- Whether the parts of declarations are contained. -/
def AreContained (ds : List (String × String)) : Prop :=
  ∀ d ∈ ds, IsContained d.1.toList ∧ IsContained d.2.toList

variable {ds : List (String × String)}

theorem toList_entry (d : String × String) :
    (entry d).toList = ("\n  " ++ d.1).toList ++ ':' :: ' ' :: d.2.toList := by
  simp [entry]

theorem toList_block (ds : List (String × String)) :
    (block ds).toList = ":root \x7b".toList ++
      (ds.flatMap fun d => (entry d).toList ++ [';']) ++ "\n\x7d".toList := by
  simp [block, String.toList_join, List.flatMap_map]

theorem IsContained.line {name : String} (h : IsContained name.toList) :
    IsContained ("\n  " ++ name).toList := by
  rw [String.toList_append]
  exact (of_all rfl).append h

theorem count_entry {m : Char} (hm : m ∈ marks) {d : String × String}
    (hname : IsContained d.1.toList) (hvalue : IsContained d.2.toList) :
    ((entry d).toList ++ [';']).count m = [':', ';'].count m := by
  have hzero : ∀ {cs : List Char}, IsContained cs → cs.count m = 0 := fun h =>
    List.count_eq_zero.2 fun hmem => h.unmarked m hmem hm
  have hblank : IsContained [' '] := .of_all rfl
  have hspace : IsContained (' ' :: d.2.toList) := hblank.append hvalue
  rw [toList_entry, List.append_assoc, List.cons_append, List.count_append, hzero hname.line,
    Nat.zero_add, List.count_cons, List.count_append, hzero hspace, Nat.zero_add]
  exact (List.count_cons ..).symm

/-- The marks of a block are one pair of braces, the colon of its selector, and a colon and a semicolon
for each declaration. -/
theorem count_block {m : Char} (hm : m ∈ marks) (h : AreContained ds) :
    (block ds).toList.count m =
      [':', '\x7b', '\x7d'].count m + ds.length * [':', ';'].count m := by
  have hds : (ds.flatMap fun d => (entry d).toList ++ [';']).count m =
      ds.length * [':', ';'].count m := by
    induction ds with
    | nil => simp
    | cons d ds ih =>
      obtain ⟨hd, hds⟩ := List.forall_mem_cons.1 h
      rw [List.flatMap_cons, List.count_append, ih hds, count_entry hm hd.1 hd.2,
        List.length_cons, Nat.succ_mul, Nat.add_comm]
  have hframe : ∀ m ∈ marks, ":root \x7b".toList.count m + "\n\x7d".toList.count m =
      [':', '\x7b', '\x7d'].count m := forall_mem_of_all (by decide)
  rw [toList_block, List.count_append, List.count_append, hds, ← hframe m hm]
  omega

theorem isBalanced_block (h : AreContained ds) : IsBalanced (block ds).toList := by
  have hds : KeepsParens (ds.flatMap fun d => (entry d).toList ++ [';']) := by
    refine .flatMap fun d hd => ?_
    obtain ⟨hname, hvalue⟩ := h d hd
    have hcolon : KeepsParens [':', ' '] := fun _ => rfl
    have hend : KeepsParens [';'] := fun _ => rfl
    rw [toList_entry]
    exact (hname.line.parens.append (hcolon.append hvalue.parens)).append hend
  have hopen : KeepsParens ":root \x7b".toList := fun _ => rfl
  have hclose : KeepsParens "\n\x7d".toList := fun _ => rfl
  rw [IsBalanced, toList_block]
  exact (hopen.append hds).append hclose 0

theorem declaration?_entry {d : String × String} (h : IsContained d.1.toList)
    (hstrip : Text.strip ("\n  " ++ d.1) = d.1) :
    declaration? (entry d).toList = some (d.1, Text.strip d.2) := by
  have hcolon : ':' ∉ ("\n  " ++ d.1).toList := fun hmem => h.line.unmarked _ hmem (by decide)
  have hvalue : Text.strip (String.ofList (' ' :: d.2.toList)) = Text.strip d.2 := by
    rw [Text.strip, String.toList_ofList, Text.trimBoth_cons_of_pos (by decide)]
    rfl
  rw [declaration?, toList_entry, Text.cutAtFirst_append_cons hcolon, Option.map_some, hvalue,
    String.ofList_toList, hstrip]

theorem declarations_block (h : AreContained ds)
    (hstrip : ∀ d ∈ ds, Text.strip ("\n  " ++ d.1) = d.1) :
    declarations (block ds) = ds.map fun d => (d.1, Text.strip d.2) := by
  have hlist : (block ds).toList = ":root ".toList ++ '\x7b' ::
      ((ds.map fun d => (entry d).toList).flatMap (· ++ [';']) ++ "\n\x7d".toList) := by
    simp [toList_block, List.flatMap_map]
  have hbrace : '\x7b' ∉ ":root ".toList := by decide
  have hpiece : ∀ w ∈ ds.map fun d => (entry d).toList, ∀ c ∈ w, (c == ';') = false := by
    intro w hw c hc
    obtain ⟨d, hd, rfl⟩ := List.mem_map.1 hw
    rw [beq_eq_false_iff_ne]
    rintro rfl
    rw [toList_entry, List.mem_append, List.mem_cons, List.mem_cons] at hc
    rcases hc with hc | hc | hc | hc
    · exact (h d hd).1.line.unmarked _ hc (by decide)
    · exact absurd hc (by decide)
    · exact absurd hc (by decide)
    · exact (h d hd).2.unmarked _ hc (by decide)
  have hread : (ds.map fun d => (entry d).toList).filterMap declaration? =
      ds.map fun d => (d.1, Text.strip d.2) := by
    rw [List.filterMap_map, ← List.filterMap_eq_map]
    refine List.filterMap_congr fun d hd => ?_
    rw [Function.comp_apply, declaration?_entry (h d hd).1 (hstrip d hd)]
    rfl
  have hend : (List.splitOnP (· == ';') "\n\x7d".toList).filterMap declaration? = [] := rfl
  simp only [declarations, hlist, Text.cutAtFirst_append_cons hbrace]
  rw [Text.splitOnP_flatMap_append (by decide) hpiece, List.filterMap_append, hread, hend,
    List.append_nil]

/-- A text that is one block of declarations with the given names, in this order. -/
structure IsSheet (names : List String) (text : String) : Prop where
  /-- No value has a mark of the layout in it, and a reader finds all names with their values. -/
  layout : ∃ values : List String, values.length = names.length ∧ text = block (names.zip values) ∧
    (∀ v ∈ values, ∀ m ∈ marks, m ∉ v.toList) ∧
      declarations text = names.zip (values.map Text.strip)
  braces : text.toList.count '\x7b' = 1 ∧ text.toList.count '\x7d' = 1
  semicolons : text.toList.count ';' = names.length
  /-- One colon belongs to the selector. -/
  colons : text.toList.count ':' = names.length + 1
  balanced : IsBalanced text.toList
  unquoted : ∀ m ∈ ['"', '\'', '\\', '*', '@'], m ∉ text.toList

theorem isSheet_block (h : AreContained ds) (hstrip : ∀ d ∈ ds, Text.strip ("\n  " ++ d.1) = d.1) :
    IsSheet (ds.map (·.1)) (block ds) where
  layout := by
    have hzip : ds = (ds.map (·.1)).zip (ds.map (·.2)) := List.zip_of_prod rfl rfl
    refine ⟨ds.map (·.2), by simp, by rw [← hzip], ?_, ?_⟩
    · intro v hv m hm hmem
      obtain ⟨d, hd, rfl⟩ := List.mem_map.1 hv
      exact (h d hd).2.unmarked m hmem hm
    · rw [declarations_block h hstrip]
      exact List.zip_of_prod (by simp) (by simp)
  braces := by
    rw [count_block (by decide) h, count_block (by decide) h]
    exact ⟨rfl, rfl⟩
  semicolons := by
    rw [count_block (by decide) h, List.length_map]
    show 0 + ds.length * 1 = ds.length
    omega
  colons := by
    rw [count_block (by decide) h, List.length_map]
    show 1 + ds.length * 1 = ds.length + 1
    omega
  balanced := isBalanced_block h
  unquoted m hm := by
    have hmark : ∀ m ∈ ['"', '\'', '\\', '*', '@'], m ∈ marks ∧
        [':', '\x7b', '\x7d'].count m = 0 ∧ [':', ';'].count m = 0 :=
      forall_mem_of_all (by decide)
    obtain ⟨hmem, hframe, hentry⟩ := hmark m hm
    rw [← List.count_eq_zero, count_block hmem h, hframe, hentry]
    rfl

/-- The custom properties of a theme, in order. -/
def properties : List String :=
  ["--color-primary", "--color-secondary", "--color-accent", "--color-background",
   "--color-surface", "--color-error", "--color-success", "--color-warning",
   "--color-text-primary", "--color-text-secondary", "--color-text-disabled", "--font-family",
   "--font-heading", "--font-mono", "--spacing-scale", "--radius-base", "--shadow-base"]

end Css

namespace Theme

/-- The declarations of a theme with the full names of the properties. -/
def sheetDeclarations (t : Theme) : List (String × String) :=
  t.cssDeclarations.map fun d => ("--" ++ d.1, d.2)

theorem css_eq_block (t : Theme) : t.css = Css.block t.sheetDeclarations := by
  have hline : ∀ d : String × String, "\n".toList ++ ("  --" ++ d.1 ++ ": " ++ d.2 ++ ";").toList =
      (Css.entry ("--" ++ d.1, d.2)).toList ++ [';'] := by
    intro d
    simp [Css.entry]
  have hend : (["\x7d"].flatMap fun l => "\n".toList ++ l.toList) = "\n\x7d".toList := by decide
  rw [← String.toList_inj, Css.toList_block, css, sheetDeclarations, List.cons_append,
    Text.toList_intercalate_cons, List.flatMap_append, List.flatMap_map, List.flatMap_map, hend,
    List.append_assoc]
  simp only [hline]

theorem map_fst_sheetDeclarations (t : Theme) : t.sheetDeclarations.map (·.1) = Css.properties := by
  have hcolors : (t.colorTokens.map fun p => "--" ++ ("color-" ++ p.1.cssName)) =
      (ColorToken.all.map ColorToken.cssName).map fun name => "--" ++ ("color-" ++ name) := by
    rw [colorTokens, List.map_map, List.map_map]
    rfl
  have hnames : t.sheetDeclarations.map (·.1) =
      (t.colorTokens.map fun p => "--" ++ ("color-" ++ p.1.cssName)) ++
        ["font-family", "font-heading", "font-mono", "spacing-scale", "radius-base",
          "shadow-base"].map ("--" ++ ·) := by
    rw [sheetDeclarations, cssDeclarations, List.map_map, List.map_append, List.map_map]
    rfl
  rw [hnames, hcolors, ColorToken.map_names.1]
  decide

theorem isDashed_sheetDeclarations (t : Theme) : ∀ d ∈ t.sheetDeclarations, Text.IsDashed d.1 := by
  have hname : ∀ {name : String}, Text.IsDashed name → Text.IsDashed ("--" ++ name) := fun h =>
    .append (.ofList rfl) h
  simp only [sheetDeclarations, cssDeclarations, List.forall_mem_map, List.forall_mem_append,
    List.forall_mem_cons, List.not_mem_nil, false_implies, implies_true, and_true]
  refine ⟨fun p _ => hname (.append (.ofList rfl) (Text.isDashed_kebabCase _)), ?_⟩
  exact ⟨hname (.ofList rfl), hname (.ofList rfl), hname (.ofList rfl), hname (.ofList rfl),
    hname (.ofList rfl), hname (.ofList rfl)⟩

theorem isContained_cssFont (t : Theme) : Css.IsContained t.cssFont.toList :=
  Css.isContained_font _ (.ofList rfl)

theorem areContained_sheetDeclarations (t : Theme) : Css.AreContained t.sheetDeclarations := by
  have hvalues : ∀ d ∈ t.cssDeclarations, Css.IsContained d.2.toList := by
    have hsuffix : ∀ {s : String} {cs : List Char}, Css.IsContained s.toList →
        cs.all Css.isPlainChar = true → Css.IsContained (s ++ String.ofList cs).toList := by
      intro s cs hs hcs
      rw [String.toList_append]
      exact hs.append (.ofList hcs)
    simp only [cssDeclarations, List.forall_mem_append, List.forall_mem_map, List.forall_mem_cons,
      List.not_mem_nil, false_implies, implies_true, and_true]
    refine ⟨fun p _ => Css.isContained_color p.2, hsuffix t.isContained_cssFont rfl,
      hsuffix (Css.isContained_font _ t.isContained_cssFont) rfl,
      hsuffix (Css.isContained_font _ (.ofList rfl)) rfl, .numeral (.float _),
      hsuffix (.numeral (.decimalText _)) rfl, ?_⟩
    have hshadow : "0 1px 3px rgba(0, 0, 0, 0.12)".toList =
        "0 1px 3px rgba".toList ++ '(' :: ("0, 0, 0, 0.12".toList ++ [')']) := by simp
    split
    · rw [hshadow]
      exact .call (.ofList rfl) (.ofList rfl)
    · exact .ofList rfl
  intro d hd
  refine ⟨.dashed (t.isDashed_sheetDeclarations d hd), ?_⟩
  obtain ⟨e, he, rfl⟩ := List.mem_map.1 hd
  exact hvalues e he

/-- The style sheet of a theme is one block of seventeen declarations in canonical order, whatever
texts the theme has. It has one pair of braces, a semicolon at the end of each declaration, a colon in
each of them and one in the selector, balanced parentheses, and no quote, backslash, `*` or `@`. -/
theorem css_isSheet (t : Theme) :
    Css.properties.length = 17 ∧ Css.IsSheet Css.properties t.css := by
  refine ⟨rfl, ?_⟩
  rw [css_eq_block, ← t.map_fst_sheetDeclarations]
  exact Css.isSheet_block t.areContained_sheetDeclarations fun d hd =>
    (t.isDashed_sheetDeclarations d hd).strip_line

end Theme

end CapsuleKit

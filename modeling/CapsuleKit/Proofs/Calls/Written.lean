import CapsuleKit.Proofs.Calls.Brackets
import CapsuleKit.Text.Basic
import CapsuleKit.Text.Escape
import Mathlib.Data.List.Forall2

/-!
# Written lines of a page

What the reader and the scan of brackets make of each part of a line: code that opens and closes
nothing (`IsCode`), literals (`IsLiteral`), arguments (`IsArgument`), and the lines themselves
(`Written`).
-/

namespace CapsuleKit.Calls

open Text (isNamePart)

/-! ### Code -/

/-- A text without line breaks. -/
def IsUnbroken (cs : List Char) : Prop :=
  '\n' ∉ cs ∧ '\r' ∉ cs

instance (cs : List Char) : Decidable (IsUnbroken cs) :=
  inferInstanceAs (Decidable ('\n' ∉ cs ∧ '\r' ∉ cs))

theorem IsUnbroken.append {as bs : List Char} (ha : IsUnbroken as) (hb : IsUnbroken bs) :
    IsUnbroken (as ++ bs) := by
  simp [IsUnbroken, ha.1, ha.2, hb.1, hb.2]

theorem isUnbroken_iff {cs : List Char} : IsUnbroken cs ↔ ∀ c ∈ cs, Text.isLineBreak c = false := by
  constructor
  · rintro ⟨hfeed, hreturn⟩ c hc
    rw [Text.isLineBreak, Bool.or_eq_false_iff, beq_eq_false_iff_ne, beq_eq_false_iff_ne]
    exact ⟨ne_of_mem_of_not_mem hc hfeed, ne_of_mem_of_not_mem hc hreturn⟩
  · intro h
    exact ⟨fun hmem => absurd (h _ hmem) (by decide), fun hmem => absurd (h _ hmem) (by decide)⟩

/-- A text on one line that leaves the open brackets as they are. -/
structure IsCode (cs : List Char) : Prop where
  unbroken : IsUnbroken cs
  scan : ∀ stack, Scan.run (.code stack) cs = some (.code stack)

/-- The characters that a scan treats as more than plain code, and the line breaks. -/
def codeMarks : List Char :=
  ['"', '/', '(', ')', '\x7b', '\x7d', '\n', '\r']

namespace IsCode

variable {as bs cs : List Char}

theorem append (ha : IsCode as) (hb : IsCode bs) : IsCode (as ++ bs) where
  unbroken := ha.unbroken.append hb.unbroken
  scan stack := by
    rw [Scan.run_append, ha.scan stack]
    exact hb.scan stack

theorem run_append (h : IsCode as) (stack bs : List Char) :
    Scan.run (.code stack) (as ++ bs) = Scan.run (.code stack) bs := by
  rw [Scan.run_append, h.scan stack]
  rfl

theorem of_notMem (h : ∀ c ∈ cs, c ∉ codeMarks) : IsCode cs where
  unbroken := ⟨fun hmem => h _ hmem (by decide), fun hmem => h _ hmem (by decide)⟩
  scan stack := by
    induction cs with
    | nil => rfl
    | cons c cs ih =>
      obtain ⟨hc, hcs⟩ := List.forall_mem_cons.1 h
      simp only [codeMarks, List.mem_cons, List.not_mem_nil, or_false, not_or] at hc
      obtain ⟨hquote, hslash, hround, hround', hcurly, hcurly', -, -⟩ := hc
      have hstep : Scan.step (.code stack) c = some (.code stack) := by
        simp [Scan.step, hquote, hslash, hround, hround', hcurly, hcurly']
      rw [Scan.run_cons, hstep]
      exact ih hcs

theorem of_class {p : Char → Bool} (hp : codeMarks.any p = false)
    (h : ∀ c ∈ cs, p c = true) : IsCode cs := by
  refine of_notMem fun c hc hmark => ?_
  have hany : codeMarks.any p = true := List.any_eq_true.2 ⟨c, hmark, h c hc⟩
  rw [hp] at hany
  cases hany

theorem of_all (h : (cs.all fun c => !codeMarks.contains c) = true) : IsCode cs := by
  refine of_notMem fun c hc hmark => ?_
  have hnot := List.all_eq_true.1 h c hc
  rw [List.contains_iff_mem.2 hmark] at hnot
  cases hnot

theorem name {s : String} (h : Text.isPlainName s = true) : IsCode s.toList := by
  obtain ⟨c, cs, hname, hc, hcs⟩ := Text.exists_of_isPlainName h
  rw [hname]
  exact of_class (p := isNamePart) rfl
    (List.forall_mem_cons.2 ⟨Text.isNamePart_of_isNameStart hc, hcs⟩)

theorem numeral {s : String} (h : IsNumeral s) : IsCode s.toList :=
  of_class (p := isNumeralChar) rfl h.chars

end IsCode

/-! ### Literals -/

/-- A literal: code that is read to its end, if no letter, digit, sign or point follows it. -/
structure IsLiteral (D : Dialect) (s : String) : Prop where
  code : IsCode s.toList
  reads : ∀ rest, (∀ c, rest.head? = some c → isNumeralChar c = false) →
    readLiteral D (s.toList ++ rest) = some (s, rest)

/-- What may stand between the quotes of a literal. -/
structure IsQuotable (D : Dialect) (cs : List Char) : Prop where
  unbroken : IsUnbroken cs
  scan : ∀ stack, Scan.run (.literal stack) cs = some (.literal stack)
  reads : ∀ rest, readQuoted D (cs ++ rest) =
    (readQuoted D rest).map fun p => (cs ++ p.1, p.2)

variable {D : Dialect}

namespace IsQuotable

variable {as bs : List Char} {c : Char}

theorem nil : IsQuotable D [] where
  unbroken := ⟨List.not_mem_nil, List.not_mem_nil⟩
  scan _ := rfl
  reads rest := by simp

theorem append (ha : IsQuotable D as) (hb : IsQuotable D bs) : IsQuotable D (as ++ bs) where
  unbroken := ha.unbroken.append hb.unbroken
  scan stack := by
    rw [Scan.run_append, ha.scan stack]
    exact hb.scan stack
  reads rest := by
    rw [List.append_assoc, ha.reads, hb.reads, Option.map_map]
    simp [Function.comp_def]

theorem flatMap {f : Char → List Char} {cs : List Char} (h : ∀ c ∈ cs, IsQuotable D (f c)) :
    IsQuotable D (cs.flatMap f) := by
  induction cs with
  | nil => exact nil
  | cons c cs ih =>
    rw [List.flatMap_cons]
    exact (h c (.head _)).append (ih fun d hd => h d (.tail _ hd))

theorem char (hD : ∀ d ∈ swift.marks, d ∈ D.marks) (hc : c ∉ D.marks) : IsQuotable D [c] := by
  have hne : ∀ {d}, d ∈ swift.marks → c ≠ d := by
    rintro d hd rfl
    exact hc (hD c hd)
  have hquote : c ≠ '"' := hne (by decide)
  have hback : c ≠ '\\' := hne (by decide)
  refine ⟨⟨?_, ?_⟩, fun stack => ?_, fun rest => ?_⟩
  · simpa using (hne (by decide : '\n' ∈ swift.marks)).symm
  · simpa using (hne (by decide : '\r' ∈ swift.marks)).symm
  · simp [Scan.run, Scan.step, hquote, hback]
  · rw [List.singleton_append, readQuoted.eq_def]
    simp [hback, hc]

theorem escape (hc : c ∈ D.escapes) (hbreak : IsUnbroken [c]) : IsQuotable D ['\\', c] where
  unbroken := (by decide : IsUnbroken ['\\']).append hbreak
  scan _ := rfl
  reads rest := by
    rw [List.cons_append, List.singleton_append, readQuoted.eq_def]
    simp [hc]

end IsQuotable

namespace IsLiteral

theorem quoted {cs : List Char} (h : IsQuotable D cs) :
    IsLiteral D ("\"" ++ String.ofList cs ++ "\"") := by
  have hchars : ("\"" ++ String.ofList cs ++ "\"").toList = '"' :: cs ++ ['"'] := by simp
  have htext : String.ofList ('"' :: cs ++ ['"']) = "\"" ++ String.ofList cs ++ "\"" := by
    rw [← hchars, String.ofList_toList]
  refine ⟨?_, fun rest _ => ?_⟩
  · rw [hchars]
    refine ⟨?_, fun stack => ?_⟩
    · exact ((by decide : IsUnbroken ['"']).append h.unbroken).append (by decide)
    · rw [List.cons_append, Scan.run_cons]
      show Scan.run (.literal stack) (cs ++ ['"']) = _
      rw [Scan.run_append, h.scan stack]
      rfl
  · rw [hchars, List.append_assoc, List.cons_append, List.singleton_append, readLiteral,
      h.reads, readQuoted, Option.map_some, Option.map_some, List.append_nil, htext]

theorem emptyClosure : IsLiteral D "\x7b\x7d" where
  code := ⟨by decide, fun _ => rfl⟩
  reads rest _ := by
    show (after? ['\x7d'] (['\x7d'] ++ rest)).map _ = _
    rw [after?_append, Option.map_some]

theorem numeral {s : String} (h : IsNumeral s) : IsLiteral D s where
  code := .numeral h
  reads rest hrest := by
    obtain ⟨c, cs, hs⟩ := List.exists_cons_of_ne_nil h.ne_nil
    have hc : isNumeralChar c = true := h.chars c (by rw [hs]; exact .head _)
    have hquote : c ≠ '"' := by
      rintro rfl
      cases hc
    have hbrace : c ≠ '\x7b' := by
      rintro rfl
      cases hc
    have hword : readLiteral D (s.toList ++ rest) =
        if (s.toList ++ rest).takeWhile isNumeralChar = [] then none
        else some (String.ofList ((s.toList ++ rest).takeWhile isNumeralChar),
          (s.toList ++ rest).dropWhile isNumeralChar) := by
      rw [hs, List.cons_append, readLiteral.eq_def]
      simp [hquote, hbrace]
    rw [hword, Text.takeWhile_append h.chars hrest, Text.dropWhile_append h.chars hrest,
      if_neg h.ne_nil, String.ofList_toList]

end IsLiteral

/-! ### Arguments -/

/-- What reading needs of a dialect: its separator is code that ends a name and starts no call. -/
structure Dialect.IsRegular (D : Dialect) : Prop where
  code : IsCode D.separator
  head : ∃ c cs, D.separator = c :: cs ∧ isNamePart c = false ∧ c ≠ '('

theorem isRegular_swift : swift.IsRegular where
  code := .of_all rfl
  head := ⟨_, _, rfl, by decide, by decide⟩

theorem isRegular_kotlin : kotlin.IsRegular where
  code := .of_all rfl
  head := ⟨_, _, rfl, by decide, by decide⟩

/-- A text is a labelled literal. -/
structure IsArgument (D : Dialect) (text : String) (a : String × String) : Prop where
  label : Text.isPlainName a.1 = true
  literal : IsLiteral D a.2
  chars : text.toList = a.1.toList ++ (D.separator ++ a.2.toList)

theorem Dialect.IsRegular.ends_name (hD : D.IsRegular) (rest : List Char) :
    ∀ c, (D.separator ++ rest).head? = some c → isNamePart c = false := by
  obtain ⟨d, ds, hsep, hd, -⟩ := hD.head
  rw [hsep]
  intro c hc
  cases hc
  exact hd

namespace IsArgument

variable {text : String} {a : String × String} {texts : List String} {as : List (String × String)}

theorem code (hD : D.IsRegular) (h : IsArgument D text a) : IsCode text.toList := by
  rw [h.chars]
  exact (IsCode.name h.label).append (hD.code.append h.literal.code)

theorem readArgument_append (hD : D.IsRegular) (h : IsArgument D text a) (rest : List Char)
    (hrest : ∀ c, rest.head? = some c → isNumeralChar c = false) :
    readArgument D (text.toList ++ rest) = some (a, rest) := by
  have hname : readName (text.toList ++ rest) =
      some (a.1, D.separator ++ (a.2.toList ++ rest)) := by
    rw [h.chars, List.append_assoc, List.append_assoc]
    exact readName_append h.label (hD.ends_name _)
  simp [readArgument, hname, after?_append, h.literal.reads rest hrest]

theorem readMore_intercalate (hD : D.IsRegular) (h : IsArgument D text a)
    (hs : List.Forall₂ (IsArgument D) texts as) (rest : List Char) :
    readMore D ((String.intercalate ", " (text :: texts)).toList ++ ')' :: rest) =
      some (a :: as, rest) := by
  induction hs generalizing text a with
  | nil =>
    have hread := h.readArgument_append hD (')' :: rest) (by rintro c ⟨⟩; decide)
    rw [String.intercalate_singleton, readMore, hread]
    rfl
  | @cons t b ts bs h' hs ih =>
    have hchars : (String.intercalate ", " (text :: t :: ts)).toList ++ ')' :: rest =
        text.toList ++ ',' :: ' ' ::
          ((String.intercalate ", " (t :: ts)).toList ++ ')' :: rest) := by
      simp [String.intercalate_cons_cons]
    have hread := h.readArgument_append hD
      (',' :: ' ' :: ((String.intercalate ", " (t :: ts)).toList ++ ')' :: rest))
      (by rintro c ⟨⟩; decide)
    rw [hchars, readMore, hread]
    simp only
    rw [if_pos (by simp only [List.length_append, List.length_cons]; omega), ih h', Option.map_some]

theorem code_intercalate (hD : D.IsRegular) (hs : List.Forall₂ (IsArgument D) texts as) :
    IsCode (String.intercalate ", " texts).toList := by
  induction hs with
  | nil => exact .of_all rfl
  | @cons t a ts as h hs ih =>
    cases ts with
    | nil => simpa using h.code hD
    | cons u us =>
      rw [String.intercalate_cons_cons, String.toList_append, String.toList_append]
      exact ((h.code hD).append (.of_all rfl)).append ih

theorem readArguments_intercalate (hD : D.IsRegular)
    (hs : List.Forall₂ (IsArgument D) texts as) (rest : List Char) :
    readArguments D ((String.intercalate ", " texts).toList ++ ')' :: rest) = some (as, rest) := by
  cases hs with
  | nil => rfl
  | @cons t a ts as h hs =>
    have hread := readMore_intercalate hD h hs rest
    obtain ⟨c, cs, hlabel, hc, -⟩ := Text.exists_of_isPlainName h.label
    rw [Text.toList_intercalate_cons, h.chars, hlabel] at hread ⊢
    rw [← hread]
    unfold readArguments
    split
    · rename_i heq
      rw [(List.cons.inj heq).1] at hc
      cases hc
    · rfl

end IsArgument

/-! ### Lines -/

/-- A line as it is read, with its effect on brackets. -/
structure Written (D : Dialect) (line : String) (l : Line) : Prop where
  reads : readLine D line = some l
  unbroken : IsUnbroken line.toList
  scans : ∀ stack, scanLine stack line = l.effect stack

namespace Written

variable {line name label text : String} {l : Line}

theorem pad (h : Written D line l) (n : Nat) : Written D (Text.spaces n ++ line) l := by
  have hchars : (Text.spaces n ++ line).toList = List.replicate n ' ' ++ line.toList := by
    rw [String.toList_append, Text.spaces, String.toList_ofList]
  have hblank : IsCode (List.replicate n ' ') := by
    refine .of_notMem fun c hc => ?_
    rw [List.eq_of_mem_replicate hc]
    decide
  refine ⟨?_, ?_, fun stack => ?_⟩
  · rw [readLine, hchars, List.dropWhile_append_of_pos (by simp)]
    exact h.reads
  · rw [hchars]
    exact hblank.unbroken.append h.unbroken
  · rw [scanLine, hchars, hblank.run_append]
    exact h.scans stack

theorem readLine_name (h : Text.isPlainName name = true) {rest : List Char}
    (hline : line.toList = name.toList ++ rest)
    (hrest : ∀ c, rest.head? = some c → isNamePart c = false) :
    readLine D line = readNamed D name rest := by
  obtain ⟨c, cs, hname, hc, -⟩ := Text.exists_of_isPlainName h
  have hread := readName_append h hrest
  have hspace : (c :: (cs ++ rest)).dropWhile (· == ' ') = c :: (cs ++ rest) := by
    have hne : c ≠ ' ' := Text.ne_of_isNameStart hc rfl
    simp [hne]
  rw [hname, List.cons_append] at hread
  rw [readLine, hline, hname, List.cons_append, hspace, readCode.eq_def]
  split
  case h_1 heq => exact absurd (List.cons.inj heq).1 (Text.ne_of_isNameStart hc rfl)
  case h_2 heq => exact absurd (List.cons.inj heq).1 (Text.ne_of_isNameStart hc rfl)
  case h_3 heq => exact absurd (List.cons.inj heq).1 (Text.ne_of_isNameStart hc rfl)
  case h_4 => rw [hread]; rfl

theorem readNamed_separator (hD : D.IsRegular) (label : String) (rest : List Char) :
    readNamed D label (D.separator ++ rest) =
      if rest = ['\x7b'] then some (.slotStart label)
      else (readLiteral D rest).bind fun p => (readEnd [','] p.2).map (.argument label p.1) := by
  obtain ⟨c, cs, hsep, -, hc⟩ := hD.head
  rw [readNamed.eq_def]
  split
  case h_1 heq =>
    rw [hsep] at heq
    exact absurd (List.cons.inj heq).1 hc
  case h_2 =>
    rw [after?_append]
    rfl

theorem comment (text : String) (h : IsUnbroken text.toList) :
    Written D ("//" ++ text) (.comment text) := by
  have hchars : ("//" ++ text).toList = '/' :: '/' :: text.toList := by simp
  have hstay : ∀ (stack cs : List Char), Scan.run (.comment stack) cs = some (.comment stack) := by
    intro stack cs
    induction cs with
    | nil => rfl
    | cons c cs ih => exact ih
  refine ⟨?_, ?_, fun stack => ?_⟩
  · rw [readLine, hchars]
    show (after? ['/'] (['/'] ++ text.toList)).map (fun cs => Line.comment (String.ofList cs)) = _
    rw [after?_append, Option.map_some, String.ofList_toList]
  · rw [hchars]
    exact (by decide : IsUnbroken ['/', '/']).append h
  · rw [scanLine, hchars]
    show (Scan.run (.comment stack) text.toList).bind Scan.lineEnd = _
    rw [hstay]
    rfl

theorem close (comma : Bool) : Written D ("\x7d" ++ if comma then "," else "") (.close comma) := by
  refine ⟨?_, ?_, fun stack => ?_⟩
  · cases comma <;> rfl
  · cases comma <;> decide
  · cases stack with
    | nil => cases comma <;> rfl
    | cons c stack =>
      by_cases hc : c = '\x7b'
      · subst hc
        cases comma <;> rfl
      · cases comma <;> simp [scanLine, Scan.run, Scan.step, Scan.pop, hc, Line.effect]

theorem argumentsEnd (opens : Bool) :
    Written D (")" ++ if opens then " \x7b" else "") (.argumentsEnd opens) := by
  refine ⟨?_, ?_, fun stack => ?_⟩
  · cases opens <;> rfl
  · cases opens <;> decide
  · cases stack with
    | nil => cases opens <;> rfl
    | cons c stack =>
      by_cases hc : c = '('
      · subst hc
        cases opens <;> rfl
      · cases opens <;> simp [scanLine, Scan.run, Scan.step, Scan.pop, hc, Line.effect]

theorem callStart (h : Text.isPlainName name = true) :
    Written D (name ++ "(") (.callStart name) := by
  have hchars : (name ++ "(").toList = name.toList ++ ['('] := by simp
  refine ⟨?_, ?_, fun stack => ?_⟩
  · exact readLine_name h hchars (by rintro c ⟨⟩; decide)
  · rw [hchars]
    exact (IsCode.name h).unbroken.append (by decide)
  · rw [scanLine, hchars, (IsCode.name h).run_append]
    rfl

theorem call (hD : D.IsRegular) (h : Text.isPlainName name = true) {texts : List String}
    {as : List (String × String)} (hs : List.Forall₂ (IsArgument D) texts as) (opens : Bool) :
    Written D (name ++ "(" ++ String.intercalate ", " texts ++ ")" ++ if opens then " \x7b" else "")
      (.call name as opens) := by
  have hchars : (name ++ "(" ++ String.intercalate ", " texts ++ ")" ++
      if opens then " \x7b" else "").toList = name.toList ++ '(' ::
        ((String.intercalate ", " texts).toList ++ ')' ::
          if opens then [' ', '\x7b'] else []) := by
    cases opens <;> simp
  have hcode := IsArgument.code_intercalate hD hs
  refine ⟨?_, ?_, fun stack => ?_⟩
  · rw [readLine_name h hchars (by rintro c ⟨⟩; decide), readNamed, if_neg (by simp),
      IsArgument.readArguments_intercalate hD hs]
    cases opens <;> rfl
  · rw [hchars]
    refine (IsCode.name h).unbroken.append ((by decide : IsUnbroken ['(']).append
      (hcode.unbroken.append ((by decide : IsUnbroken [')']).append ?_)))
    cases opens <;> decide
  · rw [scanLine, hchars, (IsCode.name h).run_append, Scan.run_cons]
    show (Scan.run (.code ('(' :: stack)) _).bind Scan.lineEnd = _
    rw [hcode.run_append]
    cases opens <;> rfl

theorem argument (hD : D.IsRegular) {a : String × String} (h : IsArgument D text a) (comma : Bool) :
    Written D (text ++ if comma then "," else "") (.argument a.1 a.2 comma) := by
  have hchars : (text ++ if comma then "," else "").toList =
      text.toList ++ if comma then [','] else [] := by
    cases comma <;> simp
  have hlong : (text ++ if comma then "," else "").toList =
      a.1.toList ++ (D.separator ++ (a.2.toList ++ if comma then [','] else [])) := by
    rw [hchars, h.chars, List.append_assoc, List.append_assoc]
  have hliteral := h.literal.reads (if comma then [','] else [])
    (by cases comma <;> rintro c ⟨⟩; decide)
  have hslot : a.2.toList ++ (if comma then [','] else []) ≠ ['\x7b'] := by
    intro heq
    rw [heq] at hliteral
    cases hliteral
  refine ⟨?_, ?_, fun stack => ?_⟩
  · rw [readLine_name h.label hlong (hD.ends_name _), readNamed_separator hD, if_neg hslot,
      hliteral]
    cases comma <;> rfl
  · rw [hchars]
    refine (h.code hD).unbroken.append ?_
    cases comma <;> decide
  · rw [scanLine, hchars, (h.code hD).run_append]
    cases comma <;> rfl

theorem slotStart (hD : D.IsRegular) (h : Text.isPlainName label = true) :
    Written D (label ++ String.ofList D.separator ++ "\x7b") (.slotStart label) := by
  have hchars : (label ++ String.ofList D.separator ++ "\x7b").toList =
      label.toList ++ (D.separator ++ ['\x7b']) := by simp
  refine ⟨?_, ?_, fun stack => ?_⟩
  · rw [readLine_name h hchars (hD.ends_name _), readNamed_separator hD, if_pos rfl]
  · rw [hchars]
    exact (IsCode.name h).unbroken.append (hD.code.unbroken.append (by decide))
  · rw [scanLine, hchars, (IsCode.name h).run_append, hD.code.run_append]
    rfl

end Written

end CapsuleKit.Calls

import CapsuleKit.Proofs.Jsx.Reader
import CapsuleKit.Proofs.Split
import Mathlib.Data.List.Forall2

/-!
# Written parts of a page

What the reader makes of each part that is written: attributes (`ReadsAttribute`), the lines of a
comment and those of an element (`ReadsLines`). Each statement is about the part in any place where it
may stand, with anything open around it, so that the parts can be put together.
-/

namespace CapsuleKit.Jsx

open State
open Text (isNamePart)

/-! ### Attributes -/

/-- A character that ends a name in a tag and gives it no value. -/
def EndsName (c : Char) : Prop :=
  isNamePart c = false ∧ c ≠ '='

/-- Whether a text is read as an attribute, when it stands behind a space in a tag. -/
def ReadsAttribute (s : String) (a : Attribute) : Prop :=
  ∀ t nodes stack c rest, EndsName c →
    run ⟨.tag t, nodes, stack⟩ (' ' :: (s.toList ++ c :: rest)) =
      run ⟨.tag (t.add a), nodes, stack⟩ (c :: rest)

section Attributes

variable {nodes : List Node} {stack : List Frame} {t : Tag} {name s : String}

theorem run_tag_space (cs : List Char) :
    run ⟨.tag t, nodes, stack⟩ (' ' :: cs) = run ⟨.tag t, nodes, stack⟩ cs :=
  run_cons_of_step rfl cs

theorem run_attributeStart (h : Text.isPlainName name = true) (cs : List Char) :
    run ⟨.tag t, nodes, stack⟩ (' ' :: (name.toList ++ '=' :: cs)) =
      run ⟨.attributeValue t name, nodes, stack⟩ cs := by
  have hstep : step ⟨.attributeName t name.toList, nodes, stack⟩ '=' =
      some ⟨.attributeValue t name, nodes, stack⟩ := by
    rw [step, if_neg (by decide), if_pos rfl, String.ofList_toList]
  rw [run_tag_space, run_append_of_run (run_attributeName h), run_cons_of_step hstep]

theorem readsAttribute_bare (h : Text.isPlainName name = true) :
    ReadsAttribute name (.bare name) := by
  intro t nodes stack c rest ⟨hpart, hequals⟩
  have hstep : step ⟨.attributeName t name.toList, nodes, stack⟩ c =
      tagStep nodes stack (t.add (.bare name)) c := by
    rw [step, hpart, if_neg (by decide), if_neg hequals, String.ofList_toList]
  rw [run_tag_space, run_append_of_run (run_attributeName h)]
  exact run_cons_congr hstep rest

theorem run_value_quote (cs : List Char) :
    run ⟨.attributeValue t name, nodes, stack⟩ ('"' :: cs) =
      run ⟨.attributeText t name [], nodes, stack⟩ cs :=
  run_cons_of_step rfl cs

theorem run_value_brace (cs : List Char) :
    run ⟨.attributeValue t name, nodes, stack⟩ ('\x7b' :: cs) =
      run ⟨.attributeBrace t name, nodes, stack⟩ cs :=
  run_cons_of_step rfl cs

theorem step_attributeText (text : List Char) (c : Char) (h : c ≠ '"') :
    step ⟨.attributeText t name text, nodes, stack⟩ c =
      some ⟨.attributeText t name (text ++ [c]), nodes, stack⟩ :=
  if_neg h

theorem readsAttribute_text (h : Text.isPlainName name = true) (hs : isPlainAttribute s = true) :
    ReadsAttribute (name ++ "=" ++ ("\"" ++ s ++ "\"")) (.value name ("\"" ++ s ++ "\"")) := by
  intro t nodes stack c rest _
  have hquote : ∀ c ∈ s.toList, c ≠ '"' := by
    intro c hc
    have hplain := List.all_eq_true.1 hs c hc
    rintro rfl
    exact absurd hplain (by decide)
  have hend : step ⟨.attributeText t name s.toList, nodes, stack⟩ '"' =
      some ⟨.tag (t.add (.value name ("\"" ++ s ++ "\""))), nodes, stack⟩ := by
    rw [step, if_pos rfl, String.ofList_toList]
  have hchars : (name ++ "=" ++ ("\"" ++ s ++ "\"")).toList ++ c :: rest =
      name.toList ++ '=' :: '"' :: (s.toList ++ '"' :: c :: rest) := by
    simp [String.toList_append]
  rw [hchars, run_attributeStart h, run_value_quote,
    run_append_of_run (run_collect step_attributeText [] hquote), List.nil_append,
    run_cons_of_step hend]

theorem run_expression {scan scan' : Scan} {cs : List Char} (h : scan.run cs = some scan')
    (source : List Char) :
    run ⟨.expression t name source scan, nodes, stack⟩ cs =
      some ⟨.expression t name (source ++ cs) scan', nodes, stack⟩ := by
  induction cs generalizing scan source with
  | nil =>
    obtain rfl := Option.some.inj h
    rw [List.append_nil]
    rfl
  | cons c cs ih =>
    rw [Scan.run_cons] at h
    obtain ⟨next, hnext, hrest⟩ := Option.bind_eq_some_iff.1 h
    have hopen : ¬ (scan = .code 0 ∧ c = '\x7d') := by
      rintro ⟨rfl, rfl⟩
      cases hnext
    have hstep : step ⟨.expression t name source scan, nodes, stack⟩ c =
        some ⟨.expression t name (source ++ [c]) next, nodes, stack⟩ := by
      rw [step, if_neg hopen, hnext]
      rfl
    rw [run_cons_of_step hstep, ih hrest, List.append_assoc, List.singleton_append]

theorem readsAttribute_code (h : Text.isPlainName name = true) (hs : IsExpression s) :
    ReadsAttribute (name ++ "=" ++ braced s) (.value name (braced s)) := by
  intro t nodes stack c rest _
  obtain ⟨d, ds, hd⟩ := List.exists_cons_of_ne_nil hs.ne_nil
  have hrun := hs.stays 0
  rw [hd, Scan.run_cons] at hrun
  obtain ⟨next, hnext, hscan⟩ := Option.bind_eq_some_iff.1 hrun
  have hangle : d ≠ '<' := by
    rintro rfl
    cases hnext
  have hstart : step ⟨.attributeBrace t name, nodes, stack⟩ d =
      some ⟨.expression t name [d] next, nodes, stack⟩ := by
    rw [step, if_neg hangle, hnext]
    rfl
  have hend : step ⟨.expression t name ([d] ++ ds) (.code 0), nodes, stack⟩ '\x7d' =
      some ⟨.tag (t.add (.value name (braced s))), nodes, stack⟩ := by
    rw [step, if_pos ⟨rfl, rfl⟩, List.singleton_append, ← hd, String.ofList_toList]
  have hchars : (name ++ "=" ++ braced s).toList ++ c :: rest =
      name.toList ++ '=' :: '\x7b' :: d :: (ds ++ '\x7d' :: c :: rest) := by
    simp [braced, String.toList_append, hd]
  rw [hchars, run_attributeStart h, run_value_brace, run_cons_of_step hstart,
    run_append_of_run (run_expression hscan [d]), run_cons_of_step hend]

def Attribute.ofProp (d : Definition) (p : String × Value) : Attribute :=
  match attributeValue? (d.propType? p.1) p.2 with
  | none => .bare p.1
  | some source => .value p.1 source

theorem readsAttribute_prop (d : Definition) {p : String × Value}
    (h : Text.isPlainName p.1 = true) : ReadsAttribute (propAttribute d p) (.ofProp d p) := by
  unfold propAttribute Attribute.ofProp
  cases hv : attributeValue? (d.propType? p.1) p.2 with
  | none => exact readsAttribute_bare h
  | some source =>
    cases isAttributeValue_of_eq_some hv with
    | text hplain => exact readsAttribute_text h hplain
    | code hexpr => exact readsAttribute_code h hexpr

theorem endsName_space : EndsName ' ' := by
  unfold EndsName
  decide

theorem endsName_greater : EndsName '>' := by
  unfold EndsName
  decide

theorem exists_endsName (ss : List String) {c : Char} (hc : EndsName c) (rest : List Char) :
    ∃ d ds, EndsName d ∧ ss.flatMap (fun s => ' ' :: s.toList) ++ c :: rest = d :: ds := by
  cases ss with
  | nil => exact ⟨c, rest, hc, rfl⟩
  | cons s ss => exact ⟨' ', _, endsName_space, rfl⟩

theorem run_attributes {ss : List String} {as : List Attribute}
    (h : List.Forall₂ ReadsAttribute ss as) (t : Tag) {c : Char} (hc : EndsName c)
    (rest : List Char) :
    run ⟨.tag t, nodes, stack⟩ (ss.flatMap (fun s => ' ' :: s.toList) ++ c :: rest) =
      run ⟨.tag { t with attributes := t.attributes ++ as }, nodes, stack⟩ (c :: rest) := by
  induction h generalizing t with
  | nil => rw [List.append_nil]; rfl
  | @cons s a ss as hs _ ih =>
    obtain ⟨d, ds, hd, heq⟩ := exists_endsName ss hc rest
    rw [List.flatMap_cons, List.append_assoc, List.cons_append, heq, hs t nodes stack d ds hd, ← heq,
      ih (t.add a), Tag.add, List.append_assoc, List.singleton_append]

end Attributes

/-! ### Lines -/

/-- Whether lines are read as nodes, wherever they stand. -/
def ReadsLines (ls : List String) (ns : List Node) : Prop :=
  ∀ nodes stack, run ⟨.content, nodes, stack⟩ (ls.flatMap fun l => '\n' :: l.toList) =
    some ⟨.content, nodes ++ ns, stack⟩

theorem ReadsLines.nil : ReadsLines [] [] := by
  intro nodes stack
  rw [List.append_nil]
  rfl

theorem ReadsLines.append {ls ms : List String} {ns os : List Node} (hl : ReadsLines ls ns)
    (hm : ReadsLines ms os) : ReadsLines (ls ++ ms) (ns ++ os) := by
  intro nodes stack
  rw [List.flatMap_append, run_append_of_run (hl nodes stack), hm (nodes ++ ns) stack,
    List.append_assoc]

/-- Joined lines are read like lines with a line feed before each of them. -/
theorem ReadsLines.run_joinLines {ls : List String} {ns : List Node} (h : ReadsLines ls ns)
    (nodes : List Node) (stack : List Frame) :
    run ⟨.content, nodes, stack⟩ (Text.joinLines ls).toList =
      some ⟨.content, nodes ++ ns, stack⟩ := by
  rw [← h nodes stack]
  cases ls with
  | nil => rfl
  | cons l ls =>
    rw [Text.joinLines, Text.toList_intercalate_cons, List.flatMap_cons, List.cons_append,
      run_content_space (by decide)]
    rfl

/-! ### Comments -/

/-- Whether a text has no comment end inside. -/
def HasNoEnd (cs : List Char) : Prop :=
  ¬ ['*', '/'] <:+: cs

theorem HasNoEnd.concat {cs : List Char} {c : Char} (h : HasNoEnd cs) (hc : c ≠ '/') :
    HasNoEnd (cs ++ [c]) := by
  intro hinfix
  rcases List.infix_concat_iff.1 hinfix with ⟨before, heq⟩ | hinfix
  · have hlast := congrArg List.getLast? heq
    rw [List.getLast?_append, List.getLast?_append] at hlast
    exact hc (Option.some.inj hlast).symm
  · exact h hinfix

theorem HasNoEnd.append_left {as cs : List Char} (ha : '*' ∉ as) (h : HasNoEnd cs) :
    HasNoEnd (as ++ cs) := by
  induction as with
  | nil => exact h
  | cons a as ih =>
    rw [List.mem_cons, not_or] at ha
    intro hinfix
    rcases List.infix_cons_iff.1 hinfix with hprefix | hinfix
    · exact ha.1 (List.cons_prefix_cons.1 hprefix).1
    · exact ih ha.2 hinfix

theorem head?_openComment (cs : List Char) : (Text.openComment cs).head? = cs.head? := by
  fun_cases Text.openComment cs <;> rfl

theorem hasNoEnd_openComment (cs : List Char) : HasNoEnd (Text.openComment cs) := by
  fun_induction Text.openComment cs with
  | case1 cs ih =>
    intro hinfix
    simp only [List.infix_cons_iff, List.cons_prefix_cons] at hinfix
    rcases hinfix with ⟨-, h, -⟩ | ⟨h, -⟩ | ⟨h, -⟩ | hinfix
    · cases h
    · cases h
    · cases h
    · exact ih hinfix
  | case2 c cs hc ih =>
    intro hinfix
    rcases List.infix_cons_iff.1 hinfix with hprefix | hinfix
    · -- the head of the rest is a slash only where it was one before
      obtain ⟨hstar, rest, hrest⟩ := List.cons_prefix_cons.1 hprefix
      have hhead := head?_openComment cs
      rw [← hrest] at hhead
      obtain ⟨tail, rfl⟩ := List.head?_eq_some_iff.1 hhead.symm
      exact hc tail hstar.symm rfl
    · exact ih hinfix
  | case3 => exact fun h => by simp at h

theorem run_comment {nodes : List Node} {stack : List Frame} {text cs : List Char}
    (h : HasNoEnd (text ++ cs)) :
    run ⟨.comment text, nodes, stack⟩ cs = some ⟨.comment (text ++ cs), nodes, stack⟩ := by
  induction cs generalizing text with
  | nil => rw [List.append_nil]; rfl
  | cons c cs ih =>
    have hopen : ¬ (c = '/' ∧ text.getLast? = some '*') := by
      rintro ⟨rfl, hlast⟩
      obtain ⟨before, rfl⟩ := List.getLast?_eq_some_iff.1 hlast
      exact h ⟨before, cs, by simp⟩
    have hstep : step ⟨.comment text, nodes, stack⟩ c =
        some ⟨.comment (text ++ [c]), nodes, stack⟩ := if_neg hopen
    rw [← List.singleton_append, ← List.append_assoc] at h
    rw [run_cons_of_step hstep, ih h, List.append_assoc, List.singleton_append]

theorem run_braced_comment {nodes : List Node} {stack : List Frame} {text : String}
    (h : HasNoEnd text.toList) :
    run ⟨.content, nodes, stack⟩ ('\x7b' :: '/' :: '*' :: (text.toList ++ ['*', '/', '\x7d'])) =
      some ⟨.content, nodes ++ [.comment text], stack⟩ := by
  have hstart : run ⟨.content, nodes, stack⟩ ['\x7b', '/', '*'] = some ⟨.comment [], nodes, stack⟩ :=
    rfl
  have htext : run ⟨.comment [], nodes, stack⟩ (text.toList ++ ['*']) =
      some ⟨.comment (text.toList ++ ['*']), nodes, stack⟩ :=
    run_comment (h.concat (by decide))
  have hend : step ⟨.comment (text.toList ++ ['*']), nodes, stack⟩ '/' =
      some ⟨.commentEnd, nodes ++ [.comment text], stack⟩ := by
    rw [step, if_pos ⟨rfl, List.getLast?_concat⟩, List.dropLast_concat, String.ofList_toList]
  have hchars : '\x7b' :: '/' :: '*' :: (text.toList ++ ['*', '/', '\x7d']) =
      ['\x7b', '/', '*'] ++ ((text.toList ++ ['*']) ++ ['/', '\x7d']) := by
    simp
  rw [hchars, run_append_of_run hstart, run_append_of_run htext, run_cons_of_step hend]
  rfl

def Node.unsupported (id : String) : Node :=
  .comment (" unsupported capsule: " ++ Text.commentText id ++ " ")

theorem readsLines_placeholder (depth : Int) (id : String) :
    ReadsLines [placeholder depth id] [.unsupported id] := by
  intro nodes stack
  have hopen : HasNoEnd (" unsupported capsule: " ++ Text.commentText id ++ " ").toList := by
    have hid : (Text.commentText id).toList = Text.openComment id.toList := String.toList_ofList
    rw [String.toList_append, String.toList_append, hid, List.append_assoc]
    exact .append_left (by decide)
      ((hasNoEnd_openComment id.toList).concat (by decide : ' ' ≠ '/'))
  have hchars : [placeholder depth id].flatMap (fun l => '\n' :: l.toList) =
      '\n' :: ((pad depth 0).toList ++ '\x7b' :: '/' :: '*' ::
        ((" unsupported capsule: " ++ Text.commentText id ++ " ").toList ++ ['*', '/', '\x7d'])) := by
    simp [placeholder, String.toList_append]
  rw [hchars, run_content_space (by decide), pad, run_content_spaces, run_braced_comment hopen]
  rfl

/-! ### Elements and fragments -/

section Elements

variable {nodes : List Node} {stack : List Frame} {depth : Int} {component name : String}
  {ss inner : List String} {as : List Attribute} {ns : List Node}

theorem run_openTag (hname : Text.isPlainName component = true)
    (h : List.Forall₂ ReadsAttribute ss as) {c : Char} (hc : EndsName c) (rest : List Char) :
    run ⟨.content, nodes, stack⟩ ('\n' :: ((openTag depth component ss).toList ++ c :: rest)) =
      run ⟨.tag ⟨component, as⟩, nodes, stack⟩ (c :: rest) := by
  obtain ⟨d, ds, hd, heq⟩ := exists_endsName ss hc rest
  have hchars : (openTag depth component ss).toList ++ c :: rest =
      (pad depth 0).toList ++ '<' :: (component.toList ++ d :: ds) := by
    rw [openTag, String.toList_append, String.toList_append, Text.toList_intercalate_cons, ← heq]
    simp
  have hless : step ⟨.content, nodes, stack⟩ '<' = some ⟨.less, nodes, stack⟩ := rfl
  have hstep : step ⟨.tagName component.toList, nodes, stack⟩ d =
      tagStep nodes stack ⟨component, []⟩ d := by
    rw [step, hd.1, if_neg (by decide), String.ofList_toList]
  have hend : run ⟨.tagName component.toList, nodes, stack⟩ (d :: ds) =
      run ⟨.tag ⟨component, []⟩, nodes, stack⟩ (d :: ds) := run_cons_congr hstep ds
  rw [hchars, run_content_space (by decide), pad, run_content_spaces, run_cons_of_step hless,
    run_append_of_run (run_tagName hname), hend, ← heq, run_attributes h _ hc]
  rfl

theorem run_closeTag (hname : Text.isPlainName component = true) :
    run ⟨.content, ns, .element ⟨component, as⟩ nodes :: stack⟩
        ('\n' :: (pad depth 0 ++ "</" ++ component ++ ">").toList) =
      some ⟨.content, nodes ++ [.element component as ns], stack⟩ := by
  have hchars : (pad depth 0 ++ "</" ++ component ++ ">").toList =
      (pad depth 0).toList ++ (['<', '/'] ++ (component.toList ++ ['>'])) := by
    simp [String.toList_append]
  have hstart : run ⟨.content, ns, .element ⟨component, as⟩ nodes :: stack⟩ ['<', '/'] =
      some ⟨.closing [], ns, .element ⟨component, as⟩ nodes :: stack⟩ := rfl
  have hclose : step ⟨.closing component.toList, ns, .element ⟨component, as⟩ nodes :: stack⟩ '>' =
      some ⟨.content, nodes ++ [.element component as ns], stack⟩ := by
    rw [step, if_neg (by decide), if_pos rfl, close, String.ofList_toList, if_pos rfl]
  rw [hchars, run_content_space (by decide), pad, run_content_spaces, run_append_of_run hstart,
    run_append_of_run (run_closing hname), run_cons_of_step hclose]
  rfl

theorem readsLines_element (hname : Text.isPlainName component = true)
    (h : List.Forall₂ ReadsAttribute ss as) (hinner : ReadsLines inner ns) {isLeaf : Bool}
    (hleaf : isLeaf = true → ns = []) :
    ReadsLines (element depth component ss isLeaf inner) [.element component as ns] := by
  intro nodes stack
  cases isLeaf with
  | true =>
    have hchars : (element depth component ss true inner).flatMap (fun l => '\n' :: l.toList) =
        '\n' :: ((openTag depth component ss).toList ++ ' ' :: ['/', '>']) := by
      simp [element, String.toList_append]
    rw [hchars, run_openTag hname h endsName_space, hleaf rfl]
    rfl
  | false =>
    have hchars : (element depth component ss false inner).flatMap (fun l => '\n' :: l.toList) =
        '\n' :: ((openTag depth component ss).toList ++ '>' ::
          (inner.flatMap (fun l => '\n' :: l.toList) ++
            '\n' :: (pad depth 0 ++ "</" ++ component ++ ">").toList)) := by
      simp [element, String.toList_append]
    have hgreater : step ⟨.tag ⟨component, as⟩, nodes, stack⟩ '>' =
        some ⟨.content, [], .element ⟨component, as⟩ nodes :: stack⟩ := rfl
    rw [hchars, run_openTag hname h endsName_greater, run_cons_of_step hgreater,
      run_append_of_run (hinner _ _), List.nil_append, run_closeTag hname]

theorem readsAttribute_slot (hname : Text.isPlainName name = true) (hinner : ReadsLines inner ns) :
    ReadsAttribute (slotAttribute depth name inner) (.fragment name ns) := by
  intro t nodes stack c rest _
  have hchars : (slotAttribute depth name inner).toList ++ c :: rest =
      name.toList ++ '=' :: (['\x7b', '<', '>', '\n'] ++ ((Text.joinLines inner).toList ++
        '\n' :: ((pad depth 1).toList ++ (['<', '/', '>', '\x7d'] ++ c :: rest)))) := by
    simp [slotAttribute, String.toList_append]
  have hstart : run ⟨.attributeValue t name, nodes, stack⟩ ['\x7b', '<', '>', '\n'] =
      some ⟨.content, [], .slot t name nodes :: stack⟩ := rfl
  have hend : run ⟨.content, ns, .slot t name nodes :: stack⟩ ['<', '/', '>', '\x7d'] =
      some ⟨.tag (t.add (.fragment name ns)), nodes, stack⟩ := rfl
  rw [hchars, run_attributeStart hname, run_append_of_run hstart,
    run_append_of_run (hinner.run_joinLines _ _), List.nil_append, run_content_space (by decide), pad,
    run_content_spaces, run_append_of_run hend]

end Elements

end CapsuleKit.Jsx

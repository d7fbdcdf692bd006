import CapsuleKit.Proofs.Calls.Written
import CapsuleKit.Proofs.Page

/-!
# Calls in two layouts

How the reader gets through the lines of a call (`Leads`). `ReadsLines`, `ReadsArgument` and
`ReadsHead` say what lines are read as, in any place where they may stand, so that the parts of a
call can be put together. Of a layout a page needs three things, that its placeholders, its slots
and its calls are read as they are meant (`IsReadable`), and the layouts of SwiftUI and of Compose
have them: `isReadable_swift`, `isReadable_compose`.
-/

namespace CapsuleKit.Calls

variable {D : Dialect}

/-! ### Steps of the reader -/

/-- The reader gets from one state to another by written lines. -/
def Leads (D : Dialect) (s : State) (lines : List String) (t : State) : Prop :=
  ∃ ls, List.Forall₂ (Written D) lines ls ∧ State.run D s ls = some t

namespace Leads

variable {s t u : State} {lines more : List String}

theorem nil (s : State) : Leads D s [] s :=
  ⟨[], .nil, rfl⟩

theorem line {line : String} {l : Line} (h : Written D line l) (hstep : s.step D l = some t) :
    Leads D s [line] t := by
  refine ⟨[l], .cons h .nil, ?_⟩
  rw [State.run, List.foldlM_cons, hstep]
  rfl

theorem trans (h : Leads D s lines t) (h' : Leads D t more u) : Leads D s (lines ++ more) u := by
  obtain ⟨ls, hls, hrun⟩ := h
  obtain ⟨ms, hms, hrun'⟩ := h'
  refine ⟨ls ++ ms, List.rel_append hls hms, ?_⟩
  rw [State.run, List.foldlM_append]
  rw [State.run] at hrun hrun'
  rw [hrun]
  exact hrun'

end Leads

/-- Lines are read as nodes, wherever nodes may stand. -/
def ReadsLines (D : Dialect) (lines : List String) (ns : List Node) : Prop :=
  ∀ nodes stack, Leads D ⟨.content, nodes, stack⟩ lines ⟨.content, nodes ++ ns, stack⟩

/-- Lines are read as an argument, in any call; `comma` tells whether they end with a comma. -/
def ReadsArgument (D : Dialect) (comma : Bool) (lines : List String) (a : Argument) : Prop :=
  ∀ component before nodes stack, Leads D ⟨.arguments ⟨component, before⟩ true, nodes, stack⟩ lines
    ⟨.arguments ⟨component, before ++ [a]⟩ comma, nodes, stack⟩

/-- Lines are read as the head of a call, which may open the trailing closure. -/
def ReadsHead (D : Dialect) (lines : Bool → List String) (component : String)
    (arguments : List Argument) : Prop :=
  ∀ opens nodes stack, Leads D ⟨.content, nodes, stack⟩ (lines opens)
    (State.finish nodes stack ⟨component, arguments⟩ opens)

theorem ReadsLines.nil : ReadsLines D [] [] := by
  intro nodes stack
  rw [List.append_nil]
  exact .nil _

theorem ReadsLines.append {lines more : List String} {ns ms : List Node}
    (h : ReadsLines D lines ns) (h' : ReadsLines D more ms) :
    ReadsLines D (lines ++ more) (ns ++ ms) := by
  intro nodes stack
  rw [← List.append_assoc]
  exact (h nodes stack).trans (h' (nodes ++ ns) stack)

theorem ReadsLines.eq_nil {ns : List Node} (h : ReadsLines D [] ns) : ns = [] := by
  obtain ⟨ls, hls, hrun⟩ := h [] []
  cases hls
  cases hrun
  rfl

/-! ### Parts of a call -/

theorem readsArgument_literal (hD : D.IsRegular) {text : String} {a : String × String}
    (h : IsArgument D text a) (n : Nat) (comma : Bool) :
    ReadsArgument D comma [Text.spaces n ++ (text ++ if comma then "," else "")]
      (.literal a.1 a.2) := by
  intro component before nodes stack
  exact .line ((Written.argument hD h comma).pad n) rfl

theorem readsArgument_closure (hD : D.IsRegular) {label : String}
    (h : Text.isPlainName label = true) {inner : List String} {ns : List Node}
    (hinner : ReadsLines D inner ns) (n m : Nat) (comma : Bool) :
    ReadsArgument D comma
      ((Text.spaces n ++ (label ++ String.ofList D.separator ++ "\x7b")) ::
        (inner ++ [Text.spaces m ++ ("\x7d" ++ if comma then "," else "")]))
      (.closure label ns) := by
  intro component before nodes stack
  refine (Leads.line ((Written.slotStart hD h).pad n) rfl).trans ((hinner [] _).trans ?_)
  exact .line ((Written.close comma).pad m) (by cases comma <;> rfl)

theorem readsHead_inline (hD : D.IsRegular) {component : String}
    (h : Text.isPlainName component = true) {texts : List String} {as : List (String × String)}
    (hs : List.Forall₂ (IsArgument D) texts as) (n : Nat) :
    ReadsHead D (fun opens => [Text.spaces n ++ (component ++ "(" ++
      String.intercalate ", " texts ++ ")" ++ if opens then " \x7b" else "")]) component
      (as.map fun a => .literal a.1 a.2) := by
  intro opens nodes stack
  exact .line ((Written.call hD h hs opens).pad n) rfl

theorem readsHead_lines {component : String} (h : Text.isPlainName component = true)
    {lines : List String} {as : List Argument}
    (hs : ∀ nodes stack, Leads D ⟨.arguments ⟨component, []⟩ true, nodes, stack⟩ lines
      ⟨.arguments ⟨component, as⟩ D.trailingComma, nodes, stack⟩) (n m : Nat) :
    ReadsHead D (fun opens => (Text.spaces n ++ (component ++ "(")) ::
      (lines ++ [Text.spaces m ++ (")" ++ if opens then " \x7b" else "")])) component as := by
  intro opens nodes stack
  have hend : State.step D ⟨.arguments ⟨component, as⟩ D.trailingComma, nodes, stack⟩
      (.argumentsEnd opens) = some (State.finish nodes stack ⟨component, as⟩ opens) := by
    cases hcomma : D.trailingComma <;> simp [State.step, hcomma]
  refine (Leads.line ((Written.callStart h).pad n) rfl).trans ((hs nodes stack).trans ?_)
  exact .line ((Written.argumentsEnd opens).pad m) hend

theorem ReadsHead.leaf {lines : Bool → List String} {component : String} {as : List Argument}
    (h : ReadsHead D lines component as) :
    ReadsLines D (lines false) [.call component as none] :=
  fun nodes stack => h false nodes stack

theorem ReadsHead.withChildren {lines : Bool → List String} {component : String}
    {as : List Argument} (h : ReadsHead D lines component as) {inner : List String} {ns : List Node}
    (hinner : ReadsLines D inner ns) (n : Nat) :
    ReadsLines D (lines true ++ inner ++ [Text.spaces n ++ "\x7d"])
      [.call component as (some ns)] := by
  intro nodes stack
  refine ((h true nodes stack).trans (hinner [] _)).trans ?_
  exact .line ((Written.close false).pad n) rfl

/-! ### The two layouts -/

theorem leads_flatten {lss : List (List String)} {as : List Argument}
    (h : List.Forall₂ (ReadsArgument D true) lss as) (component : String) (before : List Argument)
    (nodes : List Node) (stack : List Frame) :
    Leads D ⟨.arguments ⟨component, before⟩ true, nodes, stack⟩ lss.flatten
      ⟨.arguments ⟨component, before ++ as⟩ true, nodes, stack⟩ := by
  induction h generalizing before with
  | nil =>
    rw [List.append_nil]
    exact .nil _
  | @cons ls a lss as hls hlss ih =>
    have hrest := ih (before ++ [a])
    rw [List.append_assoc, List.singleton_append] at hrest
    exact (hls component before nodes stack).trans hrest

/-- An argument that can be written with a comma and without it. -/
def ReadsEither (D : Dialect) (lines : List String) (a : Argument) : Prop :=
  ReadsArgument D false lines a ∧ ReadsArgument D true (SwiftView.withComma lines) a

theorem leads_separated {lss : List (List String)} {as : List Argument}
    (h : List.Forall₂ (ReadsEither D) lss as) (hne : lss ≠ []) (component : String)
    (before : List Argument) (nodes : List Node) (stack : List Frame) :
    Leads D ⟨.arguments ⟨component, before⟩ true, nodes, stack⟩ (SwiftView.separated lss)
      ⟨.arguments ⟨component, before ++ as⟩ false, nodes, stack⟩ := by
  induction h generalizing before with
  | nil => exact absurd rfl hne
  | @cons ls a lss as hls hlss ih =>
    cases hlss with
    | nil => exact hls.1 component before nodes stack
    | @cons ms b lss as hms hlss =>
      have hrest := ih (List.cons_ne_nil _ _) (before ++ [a])
      rw [List.append_assoc, List.singleton_append] at hrest
      exact (hls.2 component before nodes stack).trans hrest

theorem withComma_concat (ls : List String) (l : String) :
    SwiftView.withComma (ls ++ [l]) = ls ++ [l ++ ","] := by
  induction ls with
  | nil => rfl
  | cons m ms ih =>
    cases ms with
    | nil => rfl
    | cons k ks =>
      show m :: SwiftView.withComma (k :: ks ++ [l]) = _
      rw [ih]
      rfl

/-! ### Literals of the languages -/

theorem isQuotable_escapeChar (c : Char) : IsQuotable swift (Text.escapeChar c) := by
  unfold Text.escapeChar
  split_ifs with hback hquote hfeed hreturn htab
  · exact .escape (by decide) (by decide)
  · exact .escape (by decide) (by decide)
  · exact .escape (by decide) (by decide)
  · exact .escape (by decide) (by decide)
  · exact .escape (by decide) (by decide)
  · exact .char (fun d hd => hd) (by simp [swift, hback, hquote, hfeed, hreturn])

theorem isQuotable_dollarChar (c : Char) :
    IsQuotable kotlin ((Text.escapeChar c).flatMap Text.dollarChar) := by
  unfold Text.escapeChar
  split_ifs with hback hquote hfeed hreturn htab
  · exact .escape (by decide) (by decide)
  · exact .escape (by decide) (by decide)
  · exact .escape (by decide) (by decide)
  · exact .escape (by decide) (by decide)
  · exact .escape (by decide) (by decide)
  · rw [List.flatMap_singleton]
    unfold Text.dollarChar
    split_ifs with hdollar
    · exact .escape (by decide) (by decide)
    · exact .char (fun d hd => List.mem_append_left ['$'] hd)
        (by simp [kotlin, hback, hquote, hfeed, hreturn, hdollar])

theorem isLiteral_swift (type : Option String) (v : Value) :
    IsLiteral swift (SwiftView.literal type v) := by
  have hquoted (s : String) : IsLiteral swift (Text.quoted s) :=
    .quoted (.flatMap fun c _ => isQuotable_escapeChar c)
  unfold SwiftView.literal
  split
  · exact .emptyClosure
  · split
    · split
      · exact .numeral (.of_all rfl rfl)
      · exact .numeral (.of_all rfl rfl)
    · exact .numeral (.int _)
    · exact .numeral (.float _)
    · exact hquoted _
    · exact hquoted _

theorem isLiteral_kotlin (type : Option String) (v : Value) :
    IsLiteral kotlin (Composable.literal type v) := by
  have hquoted (s : String) : IsLiteral kotlin (Text.dollarQuoted s) := by
    refine .quoted ?_
    rw [Text.escape, String.toList_ofList, List.flatMap_assoc]
    exact .flatMap fun c _ => isQuotable_dollarChar c
  unfold Composable.literal
  split
  · exact .emptyClosure
  · split
    · split
      · exact .numeral (.of_all rfl rfl)
      · exact .numeral (.of_all rfl rfl)
    · exact .numeral (.int _)
    · exact .numeral ((IsNumeral.float _).append (.of_all rfl rfl))
    · exact hquoted _
    · exact hquoted _

/-! ### Layouts that can be read -/

def literals (literal : Option String → Value → String) (d : Definition)
    (props : List (String × Value)) : List Argument :=
  (Instance.usable props).map fun p => .literal p.1 (literal (d.propType? p.1) p.2)

def Node.unsupported (id : String) : Node :=
  .comment (" unsupported capsule: " ++ id)

/-- A layout whose placeholders, slots and calls are read as what they stand for. What is written
for an empty slot is read as `emptySlot`. -/
structure IsReadable (D : Dialect) (literal : Option String → Value → String)
    (emptySlot : List Node) (L : Layout (List String)) (ReadsSlot : List String → Argument → Prop) :
    Prop where
  placeholder : ∀ (depth : Int) {id : String}, IsUnbroken id.toList →
    ReadsLines D [L.placeholder depth id] [.unsupported id]
  slot : ∀ (depth : Int) {name : String} {inner : List String} {ns : List Node},
    Text.isPlainName name = true → ReadsLines D inner ns →
      ReadsSlot (L.slot depth name inner) (.closure name (if inner.isEmpty then emptySlot else ns))
  call : ∀ (depth : Int) (d : Definition) (props : List (String × Value))
    {slots : List (List String)} {as : List Argument} (isLeaf : Bool) {inner : List String}
    {ns : List Node},
    List.Forall₂ ReadsSlot slots as → ReadsLines D inner ns →
      ReadsLines D (L.call depth d props slots isLeaf inner)
        [.call d.componentName (literals literal d props ++ as) (if isLeaf then none else some ns)]

theorem readsLines_placeholder {id : String} (h : IsUnbroken id.toList) (n : Nat) :
    ReadsLines D [Text.spaces n ++ "// unsupported capsule: " ++ id] [.unsupported id] := by
  intro nodes stack
  have htext : IsUnbroken (" unsupported capsule: " ++ id).toList := by
    rw [String.toList_append]
    exact (by decide : IsUnbroken " unsupported capsule: ".toList).append h
  have hline : Text.spaces n ++ "// unsupported capsule: " ++ id =
      Text.spaces n ++ ("//" ++ (" unsupported capsule: " ++ id)) := by
    rw [← String.toList_inj]
    simp
  rw [hline]
  exact .line ((Written.comment _ htext).pad n) rfl

theorem isArguments (separator : String) (hsep : separator.toList = D.separator)
    {literal : Option String → Value → String} (hliteral : ∀ type v, IsLiteral D (literal type v))
    (d : Definition) (props : List (String × Value)) :
    List.Forall₂ (IsArgument D)
      ((Instance.usable props).map fun p => p.1 ++ separator ++ literal (d.propType? p.1) p.2)
      ((Instance.usable props).map fun p => (p.1, literal (d.propType? p.1) p.2)) := by
  rw [List.forall₂_map_left_iff, List.forall₂_map_right_iff, List.forall₂_same]
  intro p hp
  refine ⟨(Bool.and_eq_true_iff.1 (List.mem_filter.1 hp).2).2, hliteral _ _, ?_⟩
  rw [String.toList_append, String.toList_append, hsep, List.append_assoc]

/-! ### SwiftUI -/

/-- What an empty slot holds in SwiftUI. -/
def emptyView : Node :=
  .call "EmptyView" [] none

theorem readsLines_emptyView (n : Nat) :
    ReadsLines swift [Text.spaces n ++ "EmptyView()"] [emptyView] := by
  have hname : Text.isPlainName "EmptyView" = true := by decide
  exact (readsHead_inline isRegular_swift hname .nil n).leaf

theorem readsEither_slotArgument (depth : Int) {name : String} {inner : List String}
    {ns : List Node} (hname : Text.isPlainName name = true) (h : ReadsLines swift inner ns) :
    ReadsEither swift (SwiftView.slotArgument depth name inner)
      (.closure name (if inner.isEmpty then [emptyView] else ns)) := by
  have hbody : ReadsLines swift
      (if inner.isEmpty then [SwiftView.pad depth 2 ++ "EmptyView()"] else inner)
      (if inner.isEmpty then [emptyView] else ns) := by
    split
    · exact readsLines_emptyView _
    · exact h
  have hstart : SwiftView.pad depth 1 ++ name ++ ": \x7b" =
      SwiftView.pad depth 1 ++ (name ++ String.ofList swift.separator ++ "\x7b") := by
    rw [← String.toList_inj]
    simp [swift]
  have hread := readsArgument_closure isRegular_swift hname hbody (4 * (depth.toNat + 1))
    (4 * (depth.toNat + 1))
  constructor
  · rw [SwiftView.slotArgument, hstart]
    exact hread false
  · have hend : SwiftView.pad depth 1 ++ "\x7d" ++ "," =
        SwiftView.pad depth 1 ++ ("\x7d" ++ ",") := String.append_assoc
    rw [SwiftView.slotArgument, hstart, ← List.cons_append, withComma_concat, hend]
    exact hread true

theorem readsEither_literal {text : String} {a : String × String} (h : IsArgument swift text a)
    (n : Nat) : ReadsEither swift [Text.spaces n ++ text] (.literal a.1 a.2) := by
  have hread := readsArgument_literal isRegular_swift h n
  refine ⟨by simpa using hread false, ?_⟩
  show ReadsArgument swift true [Text.spaces n ++ text ++ ","] _
  rw [String.append_assoc]
  exact hread true

theorem readsHead_swift (depth : Int) {component : String} (h : Text.isPlainName component = true)
    {texts : List String} {as : List (String × String)}
    (hs : List.Forall₂ (IsArgument swift) texts as) {slots : List (List String)}
    {bs : List Argument} (hslots : List.Forall₂ (ReadsEither swift) slots bs) :
    ReadsHead swift (fun opens => SwiftView.callHead depth component texts slots
      (if opens then " \x7b" else "")) component (as.map (fun a => .literal a.1 a.2) ++ bs) := by
  cases hslots with
  | nil =>
    have hread := readsHead_inline isRegular_swift h hs (4 * depth.toNat)
    rw [List.append_nil]
    simpa [SwiftView.callHead, SwiftView.pad, String.append_assoc] using hread
  | @cons ls b slots bs hslot hslots =>
    have hlines : List.Forall₂ (ReadsEither swift)
        (texts.map (fun text => [SwiftView.pad depth 1 ++ text]) ++ ls :: slots)
        (as.map (fun a => .literal a.1 a.2) ++ b :: bs) := by
      refine List.rel_append ?_ (.cons hslot hslots)
      rw [List.forall₂_map_left_iff, List.forall₂_map_right_iff]
      exact hs.imp fun text a htext => readsEither_literal htext _
    have hread := readsHead_lines h
      (fun nodes stack => leads_separated hlines (by simp) component [] nodes stack)
      (4 * depth.toNat) (4 * depth.toNat)
    simpa [SwiftView.callHead, SwiftView.pad, String.append_assoc] using hread

theorem isReadable_swift :
    IsReadable swift SwiftView.literal [emptyView] Layout.swift (ReadsEither swift) where
  placeholder depth id h := readsLines_placeholder h _
  slot depth name inner ns hname h := readsEither_slotArgument depth hname h
  call depth d props slots as isLeaf inner ns hslots hinner := by
    have hhead := readsHead_swift depth d.isPlainName_componentName
      (isArguments ": " rfl isLiteral_swift d props) hslots
    rw [List.map_map] at hhead
    cases isLeaf with
    | true => exact hhead.leaf
    | false => exact hhead.withChildren hinner _

/-! ### Compose -/

theorem readsHead_compose (depth : Int) {component : String}
    (h : Text.isPlainName component = true) {texts : List String} {as : List (String × String)}
    (hs : List.Forall₂ (IsArgument kotlin) texts as) {slots : List (List String)}
    {bs : List Argument} (hslots : List.Forall₂ (ReadsArgument kotlin true) slots bs) :
    ReadsHead kotlin (fun opens => Composable.callHead depth component texts slots
      (if opens then " \x7b" else "")) component (as.map (fun a => .literal a.1 a.2) ++ bs) := by
  cases hslots with
  | nil =>
    have hread := readsHead_inline isRegular_kotlin h hs (4 * depth.toNat)
    rw [List.append_nil]
    simpa [Composable.callHead, Composable.pad, String.append_assoc] using hread
  | @cons ls b slots bs hslot hslots =>
    have hlines : List.Forall₂ (ReadsArgument kotlin true)
        (texts.map (fun text => [Composable.pad depth 1 ++ text ++ ","]) ++ ls :: slots)
        (as.map (fun a => .literal a.1 a.2) ++ b :: bs) := by
      refine List.rel_append ?_ (.cons hslot hslots)
      rw [List.forall₂_map_left_iff, List.forall₂_map_right_iff]
      refine hs.imp fun text a htext => ?_
      rw [String.append_assoc]
      exact readsArgument_literal isRegular_kotlin htext _ true
    have hread := readsHead_lines h
      (fun nodes stack => leads_flatten hlines component [] nodes stack)
      (4 * depth.toNat) (4 * depth.toNat)
    rw [List.flatten_append, ← List.flatMap_def, ← List.map_eq_flatMap] at hread
    simpa [Composable.callHead, Composable.pad, String.append_assoc] using hread

theorem isReadable_compose :
    IsReadable kotlin Composable.literal [] Layout.compose (ReadsArgument kotlin true) where
  placeholder depth id h := readsLines_placeholder h _
  slot depth name inner ns hname h := by
    have hstart : Composable.pad depth 1 ++ name ++ " = \x7b" =
        Composable.pad depth 1 ++ (name ++ String.ofList kotlin.separator ++ "\x7b") := by
      rw [← String.toList_inj]
      simp [kotlin]
    have hbody : (if inner.isEmpty then [] else ns) = ns := by
      split
      case isTrue hempty =>
        rw [List.isEmpty_iff.1 hempty] at h
        exact h.eq_nil.symm
      case isFalse => rfl
    have hread := readsArgument_closure isRegular_kotlin hname h (4 * (depth.toNat + 1))
      (4 * (depth.toNat + 1)) true
    show ReadsArgument kotlin true (Composable.slotArgument depth name inner) _
    rw [Composable.slotArgument, hstart, hbody]
    exact hread
  call depth d props slots as isLeaf inner ns hslots hinner := by
    have hhead := readsHead_compose depth d.isPlainName_componentName
      (isArguments " = " rfl isLiteral_kotlin d props) hslots
    rw [List.map_map] at hhead
    cases isLeaf with
    | true => exact hhead.leaf
    | false => exact hhead.withChildren hinner _

end CapsuleKit.Calls

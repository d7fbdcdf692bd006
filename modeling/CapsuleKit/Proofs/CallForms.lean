import CapsuleKit.Proofs.Jsx.Expression
import CapsuleKit.Proofs.Nesting
import Mathlib.Data.List.Forall2

/-!
# The text of a call

A supported instance is written as a call, and each argument of the call starts with a label: the key
of a prop or the name of a slot. A `CallForm` spells out the text of a call: the component, one argument
for each label, and then either the end or the lines of the children and a closing mark. `Target.IsCall`
has the forms of the three kinds of pages, and `Target.exists_isCall` finds the call of every supported
instance in the text of the page that it belongs to, however deep it is nested.
-/

namespace CapsuleKit

namespace Instance

/-- The labels that the props of an instance give its call. -/
def propLabels (i : Instance) : List String :=
  i.validProps.map (·.1)

/-- The labels that the slots of an instance give its call. -/
def slotLabels (i : Instance) : List String :=
  i.slots.map (·.1)

/-- The labels of the call of an instance, in the order in which they are written. -/
def labels (i : Instance) : List String :=
  i.propLabels ++ i.slotLabels

end Instance

/-! ### Forms of calls -/

/-- What the text of a call is made of: the arguments for a prop and for a slot with a label, a
component with its arguments, and what follows them. -/
structure CallForm where
  prop : String → String → Prop
  slot : Int → String → String → Prop
  head : Int → String → List String → List String → String
  tail : Int → String → String → Prop

namespace CallForm

/-- Whether lines are a call of a component with labels for its props and labels for its slots. -/
def IsCall (F : CallForm) (depth : Int) (component : String) (props slots lines : List String) :
    Prop :=
  ∃ args closures rest, List.Forall₂ F.prop props args ∧
    List.Forall₂ (F.slot depth) slots closures ∧ F.tail depth component rest ∧
    Text.joinLines lines = F.head depth component args closures ++ rest

/-- Elements. An attribute is a label by itself, a label with one value, or one with a fragment. -/
def jsx : CallForm where
  prop label text := text = label ∨ ∃ value, Jsx.IsAttributeValue value ∧ text = label ++ "=" ++ value
  slot depth label text := ∃ fragment,
    text = label ++ "=\x7b<>\n" ++ fragment ++ "\n" ++ Text.spaces (2 * (depth.toNat + 1)) ++ "</>\x7d"
  head depth component args slots :=
    Text.spaces (2 * depth.toNat) ++ "<" ++ String.intercalate " " (component :: (args ++ slots))
  tail depth component rest := rest = " />" ∨
    ∃ inner, rest = ">\n" ++ Text.lines inner ++
      (Text.spaces (2 * depth.toNat) ++ "</" ++ component ++ ">")

/-- Calls of functions. An argument is a label with one literal or with a closure. With closures each
argument stands on lines of its own. -/
def function (D : Calls.Dialect) : CallForm where
  prop label text := ∃ value, Calls.IsLiteral D value ∧
    text = label ++ String.ofList D.separator ++ value
  slot depth label text := ∃ inner,
    text = Text.spaces (4 * (depth.toNat + 1)) ++ label ++ String.ofList D.separator ++ "\x7b\n" ++
      Text.lines inner ++ (Text.spaces (4 * (depth.toNat + 1)) ++ "\x7d")
  head depth component args slots :=
    Text.spaces (4 * depth.toNat) ++ component ++ "(" ++
      (if slots = [] then String.intercalate ", " args
        else "\n" ++
          String.intercalate ",\n" (args.map (Text.spaces (4 * (depth.toNat + 1)) ++ ·) ++ slots) ++
          (if D.trailingComma then "," else "") ++ "\n" ++ Text.spaces (4 * depth.toNat)) ++ ")"
  tail depth _ rest := rest = "" ∨
    ∃ inner, rest = " \x7b\n" ++ Text.lines inner ++ (Text.spaces (4 * depth.toNat) ++ "\x7d")

/-- Whether a layout writes calls of a form, with the keys of usable props and the names of slots as
labels. -/
def Fits {σ : Type} (F : CallForm) (L : Layout σ) : Prop :=
  ∀ depth d props (ss : List (String × List String)) isLeaf inner,
    F.IsCall depth d.componentName ((Instance.usable props).map (·.1)) (ss.map (·.1))
      (L.call depth d props (ss.map fun s => L.slot depth s.1 s.2) isLeaf inner)

theorem forall₂_map {α β γ : Type} {R : β → γ → Prop} {f : α → β} {g : α → γ}
    (h : ∀ a, R (f a) (g a)) (as : List α) : List.Forall₂ R (as.map f) (as.map g) := by
  rw [List.forall₂_map_left_iff, List.forall₂_map_right_iff, List.forall₂_same]
  exact fun a _ => h a

/-! ### Elements -/

theorem fits_jsx : jsx.Fits Layout.jsx := by
  intro depth d props ss isLeaf inner
  have hprop (p : String × Value) : jsx.prop p.1 (Jsx.propAttribute d p) := by
    rw [Jsx.propAttribute]
    cases hvalue : Jsx.attributeValue? (d.propType? p.1) p.2 with
    | none => exact .inl rfl
    | some v => exact .inr ⟨v, Jsx.isAttributeValue_of_eq_some hvalue, rfl⟩
  have hslot (s : String × List String) : jsx.slot depth s.1 (Jsx.slotAttribute depth s.1 s.2) :=
    ⟨_, rfl⟩
  have hargs := forall₂_map hprop (Instance.usable props)
  have hclosures := forall₂_map hslot ss
  cases isLeaf with
  | true => exact ⟨_, _, " />", hargs, hclosures, .inl rfl, Text.joinLines_singleton _⟩
  | false =>
    refine ⟨_, _, _, hargs, hclosures, .inr ⟨inner, rfl⟩, ?_⟩
    show Text.joinLines (_ :: (inner ++ [_])) = _
    rw [← List.cons_append, Text.joinLines_concat, Text.lines_cons]
    simp only [String.append_assoc]
    rfl

/-! ### Calls of functions -/

theorem isCall_of_head {D : Calls.Dialect} {depth : Int} {component : String}
    {props slots args closures : List String} (hargs : List.Forall₂ (function D).prop props args)
    (hclosures : List.Forall₂ ((function D).slot depth) slots closures) {head : String → List String}
    (hne : ∀ tail, head tail ≠ [])
    (hhead : ∀ tail, Text.joinLines (head tail) =
      (function D).head depth component args closures ++ tail) (isLeaf : Bool) (inner : List String) :
    (function D).IsCall depth component props slots
      (if isLeaf then head ""
        else head " \x7b" ++ inner ++ [Text.spaces (4 * depth.toNat) ++ "\x7d"]) := by
  cases isLeaf with
  | true => exact ⟨args, closures, "", hargs, hclosures, .inl rfl, hhead ""⟩
  | false =>
    refine ⟨args, closures, _, hargs, hclosures, .inr ⟨inner, rfl⟩, ?_⟩
    rw [if_neg (by decide), Text.joinLines_concat, Text.lines_append,
      Text.lines_eq_joinLines (hne _), hhead]
    simp only [String.append_assoc]
    rfl

theorem lines_withComma {ls : List String} (h : ls ≠ []) :
    Text.lines (SwiftView.withComma ls) = Text.joinLines ls ++ ",\n" := by
  obtain ⟨init, l, rfl⟩ := (List.eq_nil_or_concat ls).resolve_left h
  rw [List.concat_eq_append, Calls.withComma_concat, Text.joinLines_concat, Text.lines_append,
    Text.lines_cons]
  simp only [String.append_assoc]
  rfl

theorem lines_separated {lss : List (List String)} (hne : lss ≠ []) (h : ∀ ls ∈ lss, ls ≠ []) :
    Text.lines (SwiftView.separated lss) =
      String.intercalate ",\n" (lss.map Text.joinLines) ++ "\n" := by
  fun_induction SwiftView.separated lss with
  | case1 => exact absurd rfl hne
  | case2 ls => exact Text.lines_eq_joinLines (h ls (.head _))
  | case3 first rest hrest ih =>
    obtain ⟨hfirst, hall⟩ := List.forall_mem_cons.1 h
    rw [Text.lines_append, lines_withComma hfirst, ih hrest hall, List.map_cons,
      String.intercalate_cons_of_ne_nil (by simpa using hrest)]
    simp only [String.append_assoc]

theorem head_function_of_ne_nil (D : Calls.Dialect) (depth : Int) (component : String)
    (args : List String) {closures : List String} (h : closures ≠ []) :
    (function D).head depth component args closures =
      Text.spaces (4 * depth.toNat) ++ component ++ "(" ++ ("\n" ++
        String.intercalate ",\n" (args.map (Text.spaces (4 * (depth.toNat + 1)) ++ ·) ++ closures) ++
        (if D.trailingComma then "," else "") ++ "\n" ++ Text.spaces (4 * depth.toNat)) ++ ")" := by
  rw [function]
  simp only [if_neg h]

theorem joinLines_callHead_swift (depth : Int) (component : String) (args : List String)
    {slots : List (List String)} (h : ∀ ls ∈ slots, ls ≠ []) (tail : String) :
    Text.joinLines (SwiftView.callHead depth component args slots tail) =
      (function Calls.swift).head depth component args (slots.map Text.joinLines) ++ tail := by
  cases slots with
  | nil => exact Text.joinLines_singleton _
  | cons slot slots =>
    have hall : ∀ ls ∈ args.map (fun a => [SwiftView.pad depth 1 ++ a]) ++ slot :: slots, ls ≠ [] := by
      refine List.forall_mem_append.2 ⟨fun ls hls => ?_, h⟩
      obtain ⟨a, -, rfl⟩ := List.mem_map.1 hls
      exact List.cons_ne_nil _ _
    rw [head_function_of_ne_nil _ _ _ _ (by simp), SwiftView.callHead, if_neg (by simp),
      ← List.cons_append, Text.joinLines_concat, Text.lines_cons, lines_separated (by simp) hall,
      List.map_append, List.map_map]
    simp only [String.append_assoc, Function.comp_def, Text.joinLines_singleton]
    rfl

theorem slot_swift (depth : Int) (name : String) (inner : List String) :
    (function Calls.swift).slot depth name
      (Text.joinLines (SwiftView.slotArgument depth name inner)) := by
  refine ⟨if inner.isEmpty then [SwiftView.pad depth 2 ++ "EmptyView()"] else inner, ?_⟩
  rw [SwiftView.slotArgument, ← List.cons_append, Text.joinLines_concat, Text.lines_cons]
  simp only [String.append_assoc]
  rfl

theorem fits_swift : (function Calls.swift).Fits Layout.swift := by
  intro depth d props ss isLeaf inner
  have hprop (p : String × Value) : (function Calls.swift).prop p.1
      (p.1 ++ ": " ++ SwiftView.literal (d.propType? p.1) p.2) :=
    ⟨_, Calls.isLiteral_swift _ _, rfl⟩
  have hslot (s : String × List String) := slot_swift depth s.1 s.2
  have hne : ∀ ls ∈ ss.map (fun s => SwiftView.slotArgument depth s.1 s.2), ls ≠ [] := by
    intro ls hls
    obtain ⟨s, -, rfl⟩ := List.mem_map.1 hls
    exact List.cons_ne_nil _ _
  refine isCall_of_head (forall₂_map hprop _) (forall₂_map hslot ss) (fun tail => ?_)
    (fun tail => ?_) isLeaf inner
  · rw [SwiftView.callHead]
    split <;> exact List.cons_ne_nil _ _
  · have hhead := joinLines_callHead_swift depth d.componentName (SwiftView.arguments d props) hne tail
    rw [List.map_map] at hhead
    exact hhead

theorem lines_flatten {lss : List (List String)} {texts : List String}
    (h : List.Forall₂ (fun ls text => Text.lines ls = text ++ ",\n") lss texts) (hne : texts ≠ []) :
    Text.lines lss.flatten = String.intercalate ",\n" texts ++ ",\n" := by
  induction h with
  | nil => exact absurd rfl hne
  | @cons ls text lss texts hls hlss ih =>
    rw [List.flatten_cons, Text.lines_append, hls]
    cases texts with
    | nil =>
      cases hlss
      simp [Text.lines]
    | cons text' texts =>
      rw [ih (List.cons_ne_nil _ _), String.intercalate_cons_of_ne_nil (List.cons_ne_nil text' texts)]
      simp only [String.append_assoc]

theorem joinLines_callHead_compose (depth : Int) (component : String) (args : List String)
    {slots : List (List String)} {closures : List String}
    (h : List.Forall₂ (fun ls text => Text.lines ls = text ++ ",\n") slots closures) (tail : String) :
    Text.joinLines (Composable.callHead depth component args slots tail) =
      (function Calls.kotlin).head depth component args closures ++ tail := by
  cases h with
  | nil => exact Text.joinLines_singleton _
  | @cons slot closure slots closures hslot hslots =>
    have hall : List.Forall₂ (fun ls text => Text.lines ls = text ++ ",\n")
        (args.map (fun a => [Composable.pad depth 1 ++ a ++ ","]) ++ slot :: slots)
        (args.map (Composable.pad depth 1 ++ ·) ++ closure :: closures) := by
      refine List.rel_append (forall₂_map (fun a => ?_) args) (.cons hslot hslots)
      rw [Text.lines_cons]
      simp only [String.append_assoc]
      rfl
    have hlines := lines_flatten hall (by simp)
    rw [List.flatten_append, ← List.flatMap_def, ← List.map_eq_flatMap] at hlines
    rw [head_function_of_ne_nil _ _ _ _ (by simp), Composable.callHead, if_neg (by simp),
      ← List.cons_append, Text.joinLines_concat, Text.lines_cons, hlines]
    simp only [String.append_assoc]
    rfl

theorem lines_slotArgument_compose (depth : Int) (name : String) (inner : List String) :
    Text.lines (Composable.slotArgument depth name inner) =
      Text.spaces (4 * (depth.toNat + 1)) ++ name ++ " = \x7b\n" ++ Text.lines inner ++
        (Text.spaces (4 * (depth.toNat + 1)) ++ "\x7d") ++ ",\n" := by
  rw [Composable.slotArgument, Text.lines_cons, Text.lines_append, Text.lines_cons]
  simp only [String.append_assoc]
  rfl

theorem fits_compose : (function Calls.kotlin).Fits Layout.compose := by
  intro depth d props ss isLeaf inner
  have hprop (p : String × Value) : (function Calls.kotlin).prop p.1
      (p.1 ++ " = " ++ Composable.literal (d.propType? p.1) p.2) :=
    ⟨_, Calls.isLiteral_kotlin _ _, rfl⟩
  let closure (s : String × List String) : String :=
    Text.spaces (4 * (depth.toNat + 1)) ++ s.1 ++ " = \x7b\n" ++ Text.lines s.2 ++
      (Text.spaces (4 * (depth.toNat + 1)) ++ "\x7d")
  have hslot (s : String × List String) : (function Calls.kotlin).slot depth s.1 (closure s) := by
    refine ⟨s.2, ?_⟩
    simp only [closure, String.append_assoc]
    rfl
  have hlines : List.Forall₂ (fun ls text => Text.lines ls = text ++ ",\n")
      (ss.map fun s => Composable.slotArgument depth s.1 s.2) (ss.map closure) := by
    refine forall₂_map (fun s => ?_) ss
    exact lines_slotArgument_compose depth s.1 s.2
  refine isCall_of_head (forall₂_map hprop _) (forall₂_map hslot ss) (fun tail => ?_)
    (fun tail => joinLines_callHead_compose depth _ _ hlines tail) isLeaf inner
  rw [Composable.callHead]
  split <;> exact List.cons_ne_nil _ _

end CallForm

/-! ### Calls on a page -/

namespace Layout.IsRenderer

variable {σ : Type} {L : Layout σ} {F : CallForm} {r : Registry} {platform : String}
  {one : Int → Instance → List String}
  {list : Int → List Instance → List String}
  {slots : Int → List (String × List Instance) → List σ}
  {loose : Int → List (String × List Instance) → List String}
  (h : L.IsRenderer r platform one list slots loose)

include h

theorem slots_eq_map (depth : Int) (ss : List (String × List Instance)) :
    slots depth ss = ss.map fun s => L.slot depth s.1 (list (depth + 2) s.2) := by
  induction ss with
  | nil => exact h.slots_nil depth
  | cons s ss ih =>
    obtain ⟨name, is⟩ := s
    rw [h.slots_cons, ih, List.map_cons]

theorem isCall (hF : F.Fits L) {i : Instance} {d : Definition}
    (hd : r.supported platform i.capsuleId = some d) (depth : Int) :
    F.IsCall depth d.componentName i.propLabels i.slotLabels (one depth i) := by
  have hcall := hF depth d i.props (i.slots.map fun s => (s.1, list (depth + 2) s.2))
    i.children.isEmpty (list (depth + 1) i.children)
  rw [List.map_map, List.map_map] at hcall
  rw [h.supported depth i d hd, h.slots_eq_map]
  exact hcall

end Layout.IsRenderer

/-- The three kinds of pages. -/
inductive Target where
  | jsx
  | swift
  | compose

namespace Target

variable (t : Target) (r : Registry) (platform : String)

def render : Int → Instance → List String :=
  match t with
  | jsx => Jsx.render r platform
  | swift => SwiftView.render r platform
  | compose => Composable.render r platform

def renderList : Int → List Instance → List String :=
  match t with
  | jsx => Jsx.renderList r platform
  | swift => SwiftView.renderList r platform
  | compose => Composable.renderList r platform

def IsCall : Int → String → List String → List String → List String → Prop :=
  match t with
  | jsx => CallForm.jsx.IsCall
  | swift => (CallForm.function Calls.swift).IsCall
  | compose => (CallForm.function Calls.kotlin).IsCall

variable {r platform} {is : List Instance} {i : Instance} {d : Definition}

theorem exists_isIn (hi : i ∈ Instance.forest is) (depth : Int) :
    ∃ e, Text.IsIn (Text.joinLines (t.render r platform e i))
      (Text.joinLines (t.renderList r platform depth is)) := by
  cases t with
  | jsx => exact (Layout.isRenderer_jsx r platform).within_list Layout.encloses_jsx depth is i hi
  | swift =>
    obtain ⟨e, he⟩ :=
      (Layout.isRenderer_swift r platform).within_list Layout.encloses_swift depth is i hi
    exact ⟨e, Text.intercalate_isIn _ he⟩
  | compose =>
    obtain ⟨e, he⟩ :=
      (Layout.isRenderer_compose r platform).within_list Layout.encloses_compose depth is i hi
    exact ⟨e, Text.intercalate_isIn _ he⟩

theorem isCall (hd : r.supported platform i.capsuleId = some d) (depth : Int) :
    t.IsCall depth d.componentName i.propLabels i.slotLabels (t.render r platform depth i) := by
  cases t with
  | jsx => exact (Layout.isRenderer_jsx r platform).isCall CallForm.fits_jsx hd depth
  | swift => exact (Layout.isRenderer_swift r platform).isCall CallForm.fits_swift hd depth
  | compose => exact (Layout.isRenderer_compose r platform).isCall CallForm.fits_compose hd depth

theorem exists_isCall (hi : i ∈ Instance.forest is)
    (hd : r.supported platform i.capsuleId = some d) (depth : Int) :
    ∃ e, Text.IsIn (Text.joinLines (t.render r platform e i))
        (Text.joinLines (t.renderList r platform depth is)) ∧
      t.IsCall e d.componentName i.propLabels i.slotLabels (t.render r platform e i) := by
  obtain ⟨e, he⟩ : ∃ e, Text.IsIn (Text.joinLines (t.render r platform e i)) _ := t.exists_isIn hi depth
  exact ⟨e, he, t.isCall hd e⟩

end Target

end CapsuleKit

import CapsuleKit.Proofs.CallForms
import CapsuleKit.Proofs.Calls.RoundTrip
import CapsuleKit.Proofs.Jsx.RoundTrip

/-!
# What is read on a page

`Target.read` lists what stands in the text of a page, at any depth of nesting: calls of components,
with the labels of their arguments, and comments. On the page of instances these are a call for each
supported instance of the forest and a comment for each of the others, once each
(`Target.read_renderList`, `Target.outline_perm`). The three readers see slots and children in the order
of the text, the walk has them the other way round, so the lists are compared up to order. `Outlines`
is the recursion that all three have in common.
-/

namespace CapsuleKit

/-- What stands on a page, without what is nested in it: the call of a component with the labels of
its arguments, or a comment. -/
inductive Mark where
  | call (component : String) (labels : List String)
  | comment (text : String)
deriving DecidableEq

/-! ### Elements -/

namespace Jsx

def Attribute.name : Attribute → String
  | .bare name => name
  | .value name _ => name
  | .fragment name _ => name

mutual

/-- What stands in a node, in the order of the text. -/
def Node.marks : Node → List Mark
  | .element component attributes children =>
    .call component (attributes.map Attribute.name) ::
      (Attribute.marksOfList attributes ++ Node.marksOfList children)
  | .comment text => [.comment text]

def Node.marksOfList : List Node → List Mark
  | [] => []
  | n :: ns => n.marks ++ Node.marksOfList ns

def Attribute.marks : Attribute → List Mark
  | .bare _ => []
  | .value _ _ => []
  | .fragment _ nodes => Node.marksOfList nodes

def Attribute.marksOfList : List Attribute → List Mark
  | [] => []
  | a :: as => a.marks ++ Attribute.marksOfList as

end

theorem Node.marksOfList_append (ns ms : List Node) :
    marksOfList (ns ++ ms) = marksOfList ns ++ marksOfList ms := by
  induction ns with
  | nil => rfl
  | cons n ns ih => simp only [List.cons_append, marksOfList, ih, List.append_assoc]

theorem Attribute.marksOfList_append (as bs : List Attribute) :
    marksOfList (as ++ bs) = marksOfList as ++ marksOfList bs := by
  induction as with
  | nil => rfl
  | cons a as ih => simp only [List.cons_append, marksOfList, ih, List.append_assoc]

end Jsx

/-! ### Calls of functions -/

namespace Calls

def Argument.label : Argument → String
  | .literal label _ => label
  | .closure label _ => label

mutual

/-- What stands in a node, in the order of the text. -/
def Node.marks : Node → List Mark
  | .call component arguments children =>
    .call component (arguments.map Argument.label) ::
      (Argument.marksOfList arguments ++ Node.marksOfChildren children)
  | .comment text => [.comment text]

def Node.marksOfList : List Node → List Mark
  | [] => []
  | n :: ns => n.marks ++ Node.marksOfList ns

def Node.marksOfChildren : Option (List Node) → List Mark
  | none => []
  | some ns => Node.marksOfList ns

def Argument.marks : Argument → List Mark
  | .literal _ _ => []
  | .closure _ nodes => Node.marksOfList nodes

def Argument.marksOfList : List Argument → List Mark
  | [] => []
  | a :: as => a.marks ++ Argument.marksOfList as

end

theorem Node.marksOfList_append (ns ms : List Node) :
    marksOfList (ns ++ ms) = marksOfList ns ++ marksOfList ms := by
  induction ns with
  | nil => rfl
  | cons n ns ih => simp only [List.cons_append, marksOfList, ih, List.append_assoc]

theorem Argument.marksOfList_append (as bs : List Argument) :
    marksOfList (as ++ bs) = marksOfList as ++ marksOfList bs := by
  induction as with
  | nil => rfl
  | cons a as ih => simp only [List.cons_append, marksOfList, ih, List.append_assoc]

end Calls

/-! ### Outlines of instances -/

/-- What an instance itself puts on a page, apart from what is nested in it: a call, with a filler for
each empty slot, or a comment. -/
def Instance.marks (note : String → String) (filler : List Mark) (r : Registry) (platform : String)
    (i : Instance) : List Mark :=
  match r.supported platform i.capsuleId with
  | none => [.comment (note i.id)]
  | some d =>
    .call d.componentName i.labels :: (i.slots.filter (·.2.isEmpty)).flatMap fun _ => filler

/-- The equations of what is read for an instance, a list of instances, and the slots of a supported
and of an unsupported instance. -/
structure Outlines (note : String → String) (filler : List Mark) (r : Registry) (platform : String)
    (one : Instance → List Mark) (list : List Instance → List Mark)
    (slots loose : List (String × List Instance) → List Mark) : Prop where
  unsupported : ∀ i, r.supported platform i.capsuleId = none →
    one i = .comment (note i.id) :: (list i.children ++ loose i.slots)
  supported : ∀ i d, r.supported platform i.capsuleId = some d →
    one i = .call d.componentName i.labels :: (slots i.slots ++ list i.children)
  list_nil : list [] = []
  list_cons : ∀ i is, list (i :: is) = one i ++ list is
  slots_nil : slots [] = []
  slots_cons : ∀ name is ss,
    slots ((name, is) :: ss) = (if is.isEmpty then filler else list is) ++ slots ss
  loose_nil : loose [] = []
  loose_cons : ∀ name is ss, loose ((name, is) :: ss) = list is ++ loose ss

namespace Outlines

variable {note : String → String} {filler : List Mark} {r : Registry} {platform : String}
  {one : Instance → List Mark} {list : List Instance → List Mark}
  {slots loose : List (String × List Instance) → List Mark}
  (h : Outlines note filler r platform one list slots loose)

include h

mutual

theorem one_perm : ∀ i : Instance, (one i).Perm (i.marks note filler r platform ++
    ((Instance.forest i.children).flatMap (·.marks note filler r platform) ++
      (Instance.slotForest i.slots).flatMap (·.marks note filler r platform)))
  | ⟨id, capsuleId, name, props, children, ss⟩ => by
    have hchildren := list_perm children
    cases hs : r.supported platform capsuleId with
    | none =>
      rw [h.unsupported _ hs]
      simp only [Instance.marks, hs]
      exact .cons _ (hchildren.append (loose_perm ss))
    | some d =>
      rw [h.supported _ d hs]
      simp only [Instance.marks, hs]
      refine .cons _ (((slots_perm ss).append hchildren).trans ?_)
      -- a call has its slots in front of its children, the walk visits them last
      rw [List.append_assoc]
      exact List.perm_append_comm.append_left _

/-- What is read for instances is what each instance of their forest puts on a page. -/
theorem list_perm : ∀ is : List Instance,
    (list is).Perm ((Instance.forest is).flatMap (·.marks note filler r platform))
  | [] => by
    rw [h.list_nil]
    exact .nil
  | i :: is => by
    rw [h.list_cons, Instance.forest_cons, List.flatMap_append, List.flatMap_cons,
      List.flatMap_append]
    exact (one_perm i).append (list_perm is)

theorem slots_perm : ∀ ss : List (String × List Instance),
    (slots ss).Perm (((ss.filter (·.2.isEmpty)).flatMap fun _ => filler) ++
      (Instance.slotForest ss).flatMap (·.marks note filler r platform))
  | [] => by
    rw [h.slots_nil]
    exact .nil
  | (name, []) :: ss => by
    rw [h.slots_cons, Instance.slotForest_cons]
    simp only [List.isEmpty_nil, if_true, List.filter_cons, List.flatMap_cons, Instance.forest_nil,
      List.nil_append, List.append_assoc]
    exact (slots_perm ss).append_left _
  | (name, i :: is) :: ss => by
    rw [h.slots_cons, Instance.slotForest_cons, List.flatMap_append]
    simp only [List.isEmpty_cons, if_neg, List.filter_cons, Bool.false_eq_true, not_false_eq_true]
    refine ((list_perm (i :: is)).append (slots_perm ss)).trans ?_
    exact List.perm_append_comm_assoc ..

theorem loose_perm : ∀ ss : List (String × List Instance),
    (loose ss).Perm ((Instance.slotForest ss).flatMap (·.marks note filler r platform))
  | [] => by
    rw [h.loose_nil]
    exact .nil
  | (name, is) :: ss => by
    rw [h.loose_cons, Instance.slotForest_cons, List.flatMap_append]
    exact (list_perm is).append (loose_perm ss)

end

end Outlines

namespace Jsx

variable (r : Registry) (platform : String)

def note (id : String) : String :=
  " unsupported capsule: " ++ Text.commentText id ++ " "

theorem marks_ofProp (d : Definition) (p : String × Value) :
    (Attribute.ofProp d p).name = p.1 ∧ (Attribute.ofProp d p).marks = [] := by
  rw [Attribute.ofProp]
  cases attributeValue? (d.propType? p.1) p.2 with
  | none => exact ⟨rfl, by rw [Attribute.marks]⟩
  | some source => exact ⟨rfl, by rw [Attribute.marks]⟩

theorem marksOfList_props (d : Definition) (ps : List (String × Value)) :
    (ps.map (Attribute.ofProp d)).map Attribute.name = ps.map (·.1) ∧
      Attribute.marksOfList (ps.map (Attribute.ofProp d)) = [] := by
  induction ps with
  | nil => exact ⟨rfl, by rw [List.map_nil, Attribute.marksOfList]⟩
  | cons p ps ih =>
    simp only [List.map_cons, Attribute.marksOfList, marks_ofProp, ih, List.append_nil, and_self]

theorem map_name_fragments (ss : List (String × List Instance)) :
    (fragments r platform ss).map Attribute.name = ss.map (·.1) := by
  induction ss with
  | nil => rw [fragments]; rfl
  | cons s ss ih =>
    obtain ⟨name, is⟩ := s
    rw [fragments, List.map_cons, ih]
    rfl

theorem outlines : Outlines note [] r platform (fun i => Node.marksOfList (nodes r platform i))
    (fun is => Node.marksOfList (nodesOfList r platform is))
    (fun ss => Attribute.marksOfList (fragments r platform ss))
    (fun ss => Node.marksOfList (nodesOfLoose r platform ss)) where
  unsupported := fun ⟨_, _, _, _, _, _⟩ h => by
    simp only [nodes, h, Node.marksOfList, Node.marksOfList_append]
    rfl
  supported := fun ⟨_, _, _, props, _, slots⟩ d h => by
    obtain ⟨hnames, hmarks⟩ := marksOfList_props d (Instance.usable props)
    simp only [nodes, h, Node.marksOfList, Node.marks, List.map_append, hnames,
      map_name_fragments, Attribute.marksOfList_append, hmarks, List.nil_append, List.append_nil]
    rfl
  list_nil := by simp only [nodesOfList, Node.marksOfList]
  list_cons _ _ := by simp only [nodesOfList, Node.marksOfList_append]
  slots_nil := by simp only [fragments, Attribute.marksOfList]
  slots_cons _ is _ := by
    cases is <;> simp [fragments, Attribute.marksOfList, Attribute.marks, nodesOfList, Node.marksOfList]
  loose_nil := by simp only [nodesOfLoose, Node.marksOfList]
  loose_cons _ _ _ := by simp only [nodesOfLoose, Node.marksOfList_append]

end Jsx

namespace Calls

variable (literal : Option String → Value → String) (emptySlot : List Node) (r : Registry)
  (platform : String)

def note (id : String) : String :=
  " unsupported capsule: " ++ id

theorem marksOfList_literals (d : Definition) (props : List (String × Value)) :
    (literals literal d props).map Argument.label = (Instance.usable props).map (·.1) ∧
      Argument.marksOfList (literals literal d props) = [] := by
  rw [literals]
  induction Instance.usable props with
  | nil => exact ⟨rfl, by rw [List.map_nil, Argument.marksOfList]⟩
  | cons p ps ih =>
    simp only [List.map_cons, Argument.marksOfList, Argument.marks, Argument.label, ih,
      List.append_nil, and_self]

theorem map_label_closures (ss : List (String × List Instance)) :
    (closures literal emptySlot r platform ss).map Argument.label = ss.map (·.1) := by
  induction ss with
  | nil => rw [closures]; rfl
  | cons s ss ih =>
    obtain ⟨name, is⟩ := s
    rw [closures, List.map_cons, ih]
    rfl

theorem outlines : Outlines note (Node.marksOfList emptySlot) r platform
    (fun i => Node.marksOfList (nodes literal emptySlot r platform i))
    (fun is => Node.marksOfList (nodesOfList literal emptySlot r platform is))
    (fun ss => Argument.marksOfList (closures literal emptySlot r platform ss))
    (fun ss => Node.marksOfList (nodesOfLoose literal emptySlot r platform ss)) where
  unsupported := fun ⟨_, _, _, _, _, _⟩ h => by
    simp only [nodes, h, Node.marksOfList, Node.marksOfList_append]
    rfl
  supported := fun ⟨_, _, _, props, children, slots⟩ d h => by
    obtain ⟨hlabels, hmarks⟩ := marksOfList_literals literal d props
    have hchildren : Node.marksOfChildren (if children.isEmpty then none
        else some (nodesOfList literal emptySlot r platform children)) =
        Node.marksOfList (nodesOfList literal emptySlot r platform children) := by
      cases children <;> simp [Node.marksOfChildren, nodesOfList, Node.marksOfList]
    simp only [nodes, h, Node.marksOfList, Node.marks, List.map_append, hlabels, hchildren,
      map_label_closures, Argument.marksOfList_append, hmarks, List.nil_append, List.append_nil]
    rfl
  list_nil := by simp only [nodesOfList, Node.marksOfList]
  list_cons _ _ := by simp only [nodesOfList, Node.marksOfList_append]
  slots_nil := by simp only [closures, Argument.marksOfList]
  slots_cons _ is _ := by
    cases is <;> simp [closures, Argument.marksOfList, Argument.marks]
  loose_nil := by simp only [nodesOfLoose, Node.marksOfList]
  loose_cons _ _ _ := by simp only [nodesOfLoose, Node.marksOfList_append]

theorem Written.ne_empty {D : Dialect} {line : String} {l : Line} (h : Written D line l) :
    line ≠ "" := by
  rintro rfl
  have hnone : readLine D "" = none := rfl
  rw [h.reads] at hnone
  cases hnone

theorem ReadsLines.read_joinLines {D : Dialect} {lines : List String} {ns : List Node}
    (h : ReadsLines D lines ns) : read D (Text.codeLines (Text.joinLines lines)) = some ns := by
  obtain ⟨ls, hls, -⟩ := h [] []
  have hne : ∀ line ∈ lines, line ≠ "" :=
    ((List.forall₂_and_left lines ls).1 (hls.imp fun _ _ hw => ⟨hw.ne_empty, hw⟩)).1
  have hbreaks : ∀ line ∈ lines, ∀ c ∈ line.toList, Text.isLineBreak c = false :=
    fun line hline => isUnbroken_iff.1 (h.isFaithful.unbroken line hline)
  rw [Text.codeLines_joinLines hbreaks hne]
  exact h.isFaithful.reads

end Calls

/-! ### Pages -/

namespace Target

variable (t : Target)

/-- What stands in the text of a page, if it can be read. -/
def read (text : String) : Option (List Mark) :=
  match t with
  | jsx => (Jsx.read text).map Jsx.Node.marksOfList
  | swift => (Calls.read Calls.swift (Text.codeLines text)).map Calls.Node.marksOfList
  | compose => (Calls.read Calls.kotlin (Text.codeLines text)).map Calls.Node.marksOfList

/-- The text of the comment for an instance whose capsule is not supported. In an element it must not
end the comment, so each end of a comment in the id is taken apart. -/
def note : String → String :=
  match t with
  | jsx => Jsx.note
  | swift => Calls.note
  | compose => Calls.note

def comment (depth : Int) (text : String) : String :=
  match t with
  | jsx => Text.spaces (2 * depth.toNat) ++ "\x7b/*" ++ text ++ "*/\x7d"
  | swift => Text.spaces (4 * depth.toNat) ++ "//" ++ text
  | compose => Text.spaces (4 * depth.toNat) ++ "//" ++ text

/-- What an empty slot holds. -/
def filler : List Mark :=
  match t with
  | jsx => []
  | swift => [.call "EmptyView" []]
  | compose => []

variable (r : Registry) (platform : String)

def marks (i : Instance) : List Mark :=
  i.marks t.note t.filler r platform

/-- Whether the texts that an instance puts on a page as they are can be read there: the names of the
slots of a supported one, and in a line comment the id of any other. -/
def IsNameable (i : Instance) : Prop :=
  match t with
  | jsx => i.HasPlainSlots r platform
  | swift => Calls.IsNameable r platform i
  | compose => Calls.IsNameable r platform i

/-- What is to be read for instances, in the order of the text. -/
def outline : List Instance → List Mark :=
  match t with
  | jsx => fun is => Jsx.Node.marksOfList (Jsx.nodesOfList r platform is)
  | swift => fun is => Calls.Node.marksOfList
      (Calls.nodesOfList SwiftView.literal [Calls.emptyView] r platform is)
  | compose => fun is => Calls.Node.marksOfList
      (Calls.nodesOfList Composable.literal [] r platform is)

theorem exists_outlines : ∃ one slots loose,
    Outlines t.note t.filler r platform one (t.outline r platform) slots loose := by
  cases t with
  | jsx => exact ⟨_, _, _, Jsx.outlines r platform⟩
  | swift => exact ⟨_, _, _, Calls.outlines SwiftView.literal [Calls.emptyView] r platform⟩
  | compose => exact ⟨_, _, _, Calls.outlines Composable.literal [] r platform⟩

variable {r platform} {is : List Instance} {i : Instance} {d : Definition}

theorem outline_perm (is : List Instance) :
    (t.outline r platform is).Perm ((Instance.forest is).flatMap (t.marks r platform)) := by
  obtain ⟨one, slots, loose, h⟩ := t.exists_outlines r platform
  exact h.list_perm is

theorem exists_outline_eq (hd : r.supported platform i.capsuleId = some d) :
    ∃ ms, t.outline r platform [i] = .call d.componentName i.labels :: ms := by
  obtain ⟨one, slots, loose, h⟩ := t.exists_outlines r platform
  refine ⟨slots i.slots ++ t.outline r platform i.children, ?_⟩
  rw [h.list_cons, h.supported i d hd, h.list_nil, List.append_nil]

theorem call_mem_outline (hi : i ∈ Instance.forest is)
    (hd : r.supported platform i.capsuleId = some d) :
    .call d.componentName i.labels ∈ t.outline r platform is := by
  rw [(t.outline_perm is).mem_iff, List.mem_flatMap]
  refine ⟨i, hi, ?_⟩
  rw [marks, Instance.marks, hd]
  exact .head _

/-- The text of a page is read as the outline of its instances. -/
theorem read_renderList (h : ∀ i ∈ Instance.forest is, t.IsNameable r platform i) (depth : Int) :
    t.read (Text.joinLines (t.renderList r platform depth is)) = some (t.outline r platform is) := by
  cases t with
  | jsx =>
    have hreads := Jsx.readsLines_renderList r platform depth is h
    exact congrArg (Option.map Jsx.Node.marksOfList) hreads.read_joinLines
  | swift =>
    have hreads := Calls.readsLines_list
      ⟨Calls.isReadable_swift, Layout.isRenderer_swift r platform⟩ depth is h
    exact congrArg (Option.map Calls.Node.marksOfList) hreads.read_joinLines
  | compose =>
    have hreads := Calls.readsLines_list
      ⟨Calls.isReadable_compose, Layout.isRenderer_compose r platform⟩ depth is h
    exact congrArg (Option.map Calls.Node.marksOfList) hreads.read_joinLines

theorem renderList_singleton (depth : Int) (i : Instance) :
    t.renderList r platform depth [i] = t.render r platform depth i := by
  cases t <;> exact List.append_nil _

theorem read_instance (h : ∀ j ∈ Instance.forest [i], t.IsNameable r platform j) (depth : Int) :
    t.read (Text.joinLines (t.render r platform depth i)) = some (t.outline r platform [i]) := by
  rw [← t.renderList_singleton]
  exact t.read_renderList h depth

theorem append_between {mark close a b c e : String} (hmark : mark = a ++ b) (hclose : close = c ++ e)
    (pad text : String) : pad ++ mark ++ text ++ close = pad ++ a ++ (b ++ text ++ c) ++ e := by
  rw [hmark, hclose]
  simp only [String.append_assoc]

theorem append_behind {mark a b : String} (hmark : mark = a ++ b) (pad text : String) :
    pad ++ mark ++ text = pad ++ a ++ (b ++ text) := by
  rw [hmark]
  simp only [String.append_assoc]

theorem exists_render_eq (hs : r.supported platform i.capsuleId = none) (depth : Int) :
    ∃ rest, t.render r platform depth i = t.comment depth (t.note i.id) :: rest := by
  cases t with
  | jsx =>
    have hline : Jsx.placeholder depth i.id = jsx.comment depth (jsx.note i.id) :=
      append_between (by decide) (by decide) _ _
    rw [← hline]
    exact ⟨_, (Layout.isRenderer_jsx r platform).unsupported depth i hs⟩
  | swift =>
    have hline : SwiftView.placeholder depth i.id = swift.comment depth (swift.note i.id) :=
      append_behind (by decide) _ _
    rw [← hline]
    exact ⟨_, (Layout.isRenderer_swift r platform).unsupported depth i hs⟩
  | compose =>
    have hline : Composable.placeholder depth i.id = compose.comment depth (compose.note i.id) :=
      append_behind (by decide) _ _
    rw [← hline]
    exact ⟨_, (Layout.isRenderer_compose r platform).unsupported depth i hs⟩

end Target

end CapsuleKit

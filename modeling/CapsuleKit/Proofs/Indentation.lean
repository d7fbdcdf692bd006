import CapsuleKit.Proofs.Calls.Layout
import CapsuleKit.Proofs.Page

/-!
# Indentation

The depth that a page is written at, from zero on, shows in the indentation of its lines and nowhere
else. Every line has a level, which counts from the depth, and a text behind its indentation, and
neither of them depends on the depth (`IsIndented`). What a layout makes of indented parts is indented
again, however much deeper it writes them (`Layout.Indents`), and so are whole pages in SwiftUI and in
Compose.
-/

namespace CapsuleKit

theorem Text.spaces_add (m n : Nat) : spaces (m + n) = spaces m ++ spaces n := by
  rw [spaces, ← List.replicate_append_replicate, String.ofList_append]
  rfl

/-- A line without its indentation. -/
structure IndentedLine where
  /-- The levels that it stands deeper than what it belongs to. -/
  level : Nat
  text : String

/-- The line in what is written at a depth; each level is four spaces wide. -/
def IndentedLine.at (depth : Nat) (l : IndentedLine) : String :=
  Text.spaces (4 * (depth + l.level)) ++ l.text

/-- The depth of what is written tells how far its lines are indented, and nothing else. -/
def IsIndented (written : Nat → List String) : Prop :=
  ∃ ls : List IndentedLine, ∀ depth, written depth = ls.map (·.at depth)

/-- The same for several parts, each of them a list of lines. -/
def AreIndented (written : Nat → List (List String)) : Prop :=
  ∃ lss : List (List IndentedLine), ∀ depth, written depth = lss.map (·.map (·.at depth))

namespace IsIndented

variable {f g : Nat → List String}

theorem shift (h : IsIndented f) (d k : Nat) :
    f (d + k) = (f d).map (Text.spaces (4 * k) ++ ·) := by
  obtain ⟨ls, hls⟩ := h
  rw [hls, hls, List.map_map]
  refine List.map_congr_left fun l _ => ?_
  have hwidth : 4 * (d + k + l.level) = 4 * k + 4 * (d + l.level) := by omega
  rw [IndentedLine.at, hwidth, Text.spaces_add, String.append_assoc]
  rfl

theorem nil : IsIndented fun _ => [] :=
  ⟨[], fun _ => rfl⟩

theorem line {line : Nat → String} (level : Nat) (text : String)
    (h : ∀ depth, line depth = Text.spaces (4 * (depth + level)) ++ text) :
    IsIndented fun depth => [line depth] := by
  refine ⟨[⟨level, text⟩], fun depth => ?_⟩
  simp only [h]
  rfl

theorem append (hf : IsIndented f) (hg : IsIndented g) :
    IsIndented fun depth => f depth ++ g depth := by
  obtain ⟨ls, hls⟩ := hf
  obtain ⟨ms, hms⟩ := hg
  refine ⟨ls ++ ms, fun depth => ?_⟩
  simp only [hls, hms, List.map_append]

theorem deeper (h : IsIndented f) (n : Nat) : IsIndented fun depth => f (depth + n) := by
  obtain ⟨ls, hls⟩ := h
  refine ⟨ls.map fun l => ⟨n + l.level, l.text⟩, fun depth => ?_⟩
  simp only [hls, List.map_map]
  refine List.map_congr_left fun l _ => ?_
  rw [IndentedLine.at, Nat.add_assoc]
  rfl

theorem orElse (hf : IsIndented f) (hg : IsIndented g) :
    IsIndented fun depth => if (f depth).isEmpty then g depth else f depth := by
  obtain ⟨ls, hls⟩ := hf
  cases ls with
  | nil => simpa [hls] using hg
  | cons l ls => exact ⟨l :: ls, fun depth => by simp [hls]⟩

theorem withComma (h : IsIndented f) : IsIndented fun depth => SwiftView.withComma (f depth) := by
  obtain ⟨ls, hls⟩ := h
  rcases List.eq_nil_or_concat ls with rfl | ⟨init, l, rfl⟩
  · refine ⟨[], fun depth => ?_⟩
    simp only [hls]
    rfl
  · refine ⟨init ++ [⟨l.level, l.text ++ ","⟩], fun depth => ?_⟩
    simp only [hls, List.concat_eq_append, List.map_append, List.map_singleton,
      Calls.withComma_concat, IndentedLine.at, String.append_assoc]

end IsIndented

namespace AreIndented

variable {f : Nat → List String} {fs gs : Nat → List (List String)}

theorem nil : AreIndented fun _ => [] :=
  ⟨[], fun _ => rfl⟩

theorem cons (hf : IsIndented f) (hfs : AreIndented fs) :
    AreIndented fun depth => f depth :: fs depth := by
  obtain ⟨ls, hls⟩ := hf
  obtain ⟨lss, hlss⟩ := hfs
  refine ⟨ls :: lss, fun depth => ?_⟩
  simp only [hls, hlss, List.map_cons]

theorem append (hfs : AreIndented fs) (hgs : AreIndented gs) :
    AreIndented fun depth => fs depth ++ gs depth := by
  obtain ⟨lss, hlss⟩ := hfs
  obtain ⟨mss, hmss⟩ := hgs
  refine ⟨lss ++ mss, fun depth => ?_⟩
  simp only [hlss, hmss, List.map_append]

theorem flatten (h : AreIndented fs) : IsIndented fun depth => (fs depth).flatten := by
  obtain ⟨lss, hlss⟩ := h
  refine ⟨lss.flatten, fun depth => ?_⟩
  simp only [hlss, List.map_flatten]

theorem separated (h : AreIndented fs) :
    IsIndented fun depth => SwiftView.separated (fs depth) := by
  obtain ⟨lss, hlss⟩ := h
  simp only [hlss]
  clear hlss
  induction lss with
  | nil => exact .nil
  | cons ls lss ih =>
    have hls : IsIndented fun depth => ls.map (·.at depth) := ⟨ls, fun _ => rfl⟩
    cases lss with
    | nil => exact hls
    | cons ms lss => exact hls.withComma.append ih

theorem ite_isEmpty (h : AreIndented fs) {f g : Nat → List String} (hf : IsIndented f)
    (hg : IsIndented g) :
    IsIndented fun depth => if (fs depth).isEmpty then f depth else g depth := by
  obtain ⟨lss, hlss⟩ := h
  cases lss with
  | nil => simpa [hlss] using hf
  | cons ls lss => simpa [hlss] using hg

end AreIndented

/-! ### Layouts -/

namespace Layout

/-- A layout indents what it writes, if what it is given is indented. -/
structure Indents (L : Layout (List String)) : Prop where
  placeholder : ∀ id, IsIndented fun depth : Nat => [L.placeholder depth id]
  slot : ∀ name {inner}, IsIndented inner →
    IsIndented fun depth : Nat => L.slot depth name (inner depth)
  call : ∀ d props isLeaf {slots inner}, AreIndented slots → IsIndented inner →
    IsIndented fun depth : Nat => L.call depth d props (slots depth) isLeaf (inner depth)

mutual

theorem Indents.write {L : Layout (List String)} (h : L.Indents) :
    ∀ p : Piece, IsIndented fun depth : Nat => L.write depth p
  | .call d props slots children =>
    h.call d props children.isEmpty (h.writeSlots slots) ((h.writeList children).deeper 1)
  | .placeholder id => h.placeholder id

/-- Whatever pieces are nested in each other, they are indented as a whole. -/
theorem Indents.writeList {L : Layout (List String)} (h : L.Indents) :
    ∀ ps : List Piece, IsIndented fun depth : Nat => L.writeList depth ps
  | [] => .nil
  | p :: ps => (h.write p).append (h.writeList ps)

theorem Indents.writeSlots {L : Layout (List String)} (h : L.Indents) :
    ∀ ss : List (String × List Piece), AreIndented fun depth : Nat => L.writeSlots depth ss
  | [] => .nil
  | (name, ps) :: ss => .cons (h.slot name ((h.writeList ps).deeper 2)) (h.writeSlots ss)

end

section Calls

variable {pad : Nat → Nat → String}
  (hpad : ∀ depth level, pad depth level = Text.spaces (4 * (depth + level)))

include hpad

theorem isIndented_placeholder (id : String) :
    IsIndented fun depth => [pad depth 0 ++ "// unsupported capsule: " ++ id] :=
  .line 0 ("// unsupported capsule: " ++ id) fun depth => by simp [hpad, String.append_assoc]

theorem isIndented_callHead (component tail : String) (args : List String)
    {slots : Nat → List (List String)} {lines : Nat → List String} (hslots : AreIndented slots)
    (hlines : IsIndented lines) :
    IsIndented fun depth =>
      if (slots depth).isEmpty then
        [pad depth 0 ++ component ++ "(" ++ String.intercalate ", " args ++ ")" ++ tail]
      else (pad depth 0 ++ component ++ "(") :: (lines depth ++ [pad depth 0 ++ ")" ++ tail]) := by
  have hinline : IsIndented fun depth =>
      [pad depth 0 ++ component ++ "(" ++ String.intercalate ", " args ++ ")" ++ tail] :=
    .line 0 (component ++ "(" ++ String.intercalate ", " args ++ ")" ++ tail) fun depth => by
      simp [hpad, String.append_assoc]
  have hfirst : IsIndented fun depth => [pad depth 0 ++ component ++ "("] :=
    .line 0 (component ++ "(") fun depth => by simp [hpad, String.append_assoc]
  have hlast : IsIndented fun depth => [pad depth 0 ++ ")" ++ tail] :=
    .line 0 (")" ++ tail) fun depth => by simp [hpad, String.append_assoc]
  exact hslots.ite_isEmpty hinline (hfirst.append (hlines.append hlast))

theorem isIndented_call {head : Nat → String → List String}
    (hhead : ∀ tail, IsIndented fun depth => head depth tail) {inner : Nat → List String}
    (hinner : IsIndented inner) (isLeaf : Bool) :
    IsIndented fun depth =>
      if isLeaf then head depth ""
      else head depth " \x7b" ++ inner depth ++ [pad depth 0 ++ "\x7d"] := by
  cases isLeaf with
  | true => exact hhead ""
  | false =>
    have hlast : IsIndented fun depth => [pad depth 0 ++ "\x7d"] :=
      .line 0 "\x7d" fun depth => by simp [hpad]
    exact ((hhead " \x7b").append hinner).append hlast

end Calls

theorem indents_swift : swift.Indents where
  placeholder := isIndented_placeholder fun _ _ => rfl
  slot name inner hinner := by
    have hfirst : IsIndented fun depth : Nat => [SwiftView.pad depth 1 ++ name ++ ": \x7b"] :=
      .line 1 (name ++ ": \x7b") fun _ => String.append_assoc
    have hempty : IsIndented fun depth : Nat => [SwiftView.pad depth 2 ++ "EmptyView()"] :=
      .line 2 "EmptyView()" fun _ => rfl
    have hlast : IsIndented fun depth : Nat => [SwiftView.pad depth 1 ++ "\x7d"] :=
      .line 1 "\x7d" fun _ => rfl
    exact hfirst.append ((hinner.orElse hempty).append hlast)
  call d props isLeaf slots inner hslots hinner := by
    have hargs : AreIndented fun depth : Nat =>
        (SwiftView.arguments d props).map fun a => [SwiftView.pad depth 1 ++ a] := by
      refine ⟨(SwiftView.arguments d props).map fun a => [⟨1, a⟩], fun depth => ?_⟩
      rw [List.map_map]
      rfl
    exact isIndented_call (fun _ _ => rfl) (fun tail => isIndented_callHead (fun _ _ => rfl)
      d.componentName tail _ hslots (hargs.append hslots).separated) hinner isLeaf

theorem indents_compose : compose.Indents where
  placeholder := isIndented_placeholder fun _ _ => rfl
  slot name inner hinner := by
    have hfirst : IsIndented fun depth : Nat => [Composable.pad depth 1 ++ name ++ " = \x7b"] :=
      .line 1 (name ++ " = \x7b") fun _ => String.append_assoc
    have hlast : IsIndented fun depth : Nat => [Composable.pad depth 1 ++ "\x7d,"] :=
      .line 1 "\x7d," fun _ => rfl
    exact hfirst.append (hinner.append hlast)
  call d props isLeaf slots inner hslots hinner := by
    have hargs : IsIndented fun depth : Nat =>
        (Composable.arguments d props).map fun a => Composable.pad depth 1 ++ a ++ "," := by
      refine ⟨(Composable.arguments d props).map fun a => ⟨1, a ++ ","⟩, fun depth => ?_⟩
      rw [List.map_map]
      exact List.map_congr_left fun a _ => String.append_assoc
    exact isIndented_call (fun _ _ => rfl) (fun tail => isIndented_callHead (fun _ _ => rfl)
      d.componentName tail _ hslots (hargs.append hslots.flatten)) hinner isLeaf

end Layout

variable (r : Registry) (platform : String) (i : Instance)

theorem SwiftView.isIndented_render : IsIndented fun depth : Nat => render r platform depth i := by
  have hpieces := Layout.indents_swift.writeList (Piece.ofInstance r platform i)
  simpa only [(Layout.isRenderer_swift r platform).one_eq] using hpieces

theorem Composable.isIndented_render : IsIndented fun depth : Nat => render r platform depth i := by
  have hpieces := Layout.indents_compose.writeList (Piece.ofInstance r platform i)
  simpa only [(Layout.isRenderer_compose r platform).one_eq] using hpieces

/-- The depth of a page. In SwiftUI and in Compose the lines of an instance, `k` levels deeper, are
the same lines with `4 * k` spaces in front of each. At all depths they are the same texts, each
indented by its own level and the depth. -/
theorem depth_only_indents :
    (∀ d k : Nat, SwiftView.render r platform (d + k : Nat) i =
      (SwiftView.render r platform d i).map (Text.spaces (4 * k) ++ ·)) ∧
    (∀ d k : Nat, Composable.render r platform (d + k : Nat) i =
      (Composable.render r platform d i).map (Text.spaces (4 * k) ++ ·)) ∧
    (IsIndented fun depth : Nat => SwiftView.render r platform depth i) ∧
    IsIndented fun depth : Nat => Composable.render r platform depth i :=
  ⟨(SwiftView.isIndented_render r platform i).shift,
    (Composable.isIndented_render r platform i).shift,
    SwiftView.isIndented_render r platform i, Composable.isIndented_render r platform i⟩

end CapsuleKit

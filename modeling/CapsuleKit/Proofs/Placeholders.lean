import CapsuleKit.Proofs.CallForms

/-!
# Placeholders in pages of calls

An unsupported instance leaves a line comment with its id. In a page of calls the comment is an entry
of its own in the list of lines, however deep the instance is nested (`Target.exists_hasPlaceholder`).
The id is written as it is, and a line comment ends with its line, so the comment holds the id up to
the first line break in it and the rest of the id is left to the code: `placeholders_contained_iff`.
-/

namespace CapsuleKit

open Calls (IsUnbroken)

namespace Text

theorem sourceLines_append {a b first : String} {rest : List String} (ha : IsUnbroken a.toList)
    (hb : sourceLines b = first :: rest) : sourceLines (a ++ b) = (a ++ first) :: rest := by
  obtain ⟨w, ws, hsplit, rfl, rfl⟩ := List.map_eq_cons_iff.1 hb
  rw [sourceLines, String.toList_append,
    splitOnP_append_of_forall_not (Calls.isUnbroken_iff.1 ha) hsplit, List.map_cons,
    String.ofList_append, String.ofList_toList]

end Text

namespace Target

/-- The line that stands for an unsupported instance on a page: the first of the lines of the
instance, where these stand among the lines of the page. -/
structure HasPlaceholder (t : Target) (r : Registry) (platform : String) (depth : Int)
    (is : List Instance) (i : Instance) (line : String) : Prop where
  mem : i ∈ Instance.forest is
  unsupported : r.supported platform i.capsuleId = none
  written : ∃ e rest, t.render r platform e i = line :: rest ∧
    line :: rest <:+: t.renderList r platform depth is

variable {t : Target} {r : Registry} {platform : String} {depth : Int} {is : List Instance}
  {i : Instance} {line : String}

theorem exists_infix (ht : t ≠ .jsx) (hi : i ∈ Instance.forest is) (depth : Int) :
    ∃ e, t.render r platform e i <:+: t.renderList r platform depth is := by
  cases t with
  | jsx => exact absurd rfl ht
  | swift => exact (Layout.isRenderer_swift r platform).within_list Layout.encloses_swift depth is i hi
  | compose =>
    exact (Layout.isRenderer_compose r platform).within_list Layout.encloses_compose depth is i hi

theorem exists_comment (ht : t ≠ .jsx) (hs : r.supported platform i.capsuleId = none) (e : Int) :
    ∃ n rest, t.render r platform e i =
      (Text.spaces n ++ "// unsupported capsule: " ++ i.id) :: rest := by
  cases t with
  | jsx => exact absurd rfl ht
  | swift => exact ⟨_, _, (Layout.isRenderer_swift r platform).unsupported e i hs⟩
  | compose => exact ⟨_, _, (Layout.isRenderer_compose r platform).unsupported e i hs⟩

theorem exists_hasPlaceholder (ht : t ≠ .jsx) (hi : i ∈ Instance.forest is)
    (hs : r.supported platform i.capsuleId = none) (depth : Int) :
    ∃ line, t.HasPlaceholder r platform depth is i line := by
  obtain ⟨e, he⟩ : ∃ e, t.render r platform e i <:+: t.renderList r platform depth is :=
    exists_infix ht hi depth
  obtain ⟨n, rest, hlines⟩ := exists_comment ht hs e
  rw [hlines] at he
  exact ⟨_, hi, hs, e, rest, hlines, he⟩

theorem HasPlaceholder.eq_comment (ht : t ≠ .jsx) (h : t.HasPlaceholder r platform depth is i line) :
    ∃ n, line = Text.spaces n ++ "// unsupported capsule: " ++ i.id := by
  obtain ⟨e, rest, hlines, -⟩ := h.written
  obtain ⟨n, rest', hcomment⟩ := exists_comment ht h.unsupported e
  exact ⟨n, (List.cons.inj (hlines.symm.trans hcomment)).1⟩

end Target

theorem isUnbroken_comment (n : Nat) :
    IsUnbroken (Text.spaces n ++ "// unsupported capsule: ").toList := by
  rw [String.toList_append, Text.spaces, String.toList_ofList]
  refine .append ?_ (by decide)
  refine Calls.isUnbroken_iff.2 fun c hc => ?_
  rw [List.eq_of_mem_replicate hc]
  rfl

/-- Placeholders hold the ids of their instances up to the first line break. On a page of calls every
unsupported instance, however deep, has its line; the line is a comment with the id, and as source code
it is a comment with the first line of the id, followed by the other lines of the id, which are no
comments. So all placeholders are single lines exactly if no such id has a line break. -/
theorem placeholders_contained_iff (t : Target) (ht : t ≠ .jsx) (r : Registry) (platform : String)
    (depth : Int) (is : List Instance) :
    (∀ i ∈ Instance.forest is, r.supported platform i.capsuleId = none →
      ∃ line, t.HasPlaceholder r platform depth is i line) ∧
      (∀ i line, t.HasPlaceholder r platform depth is i line →
        ∃ n, line = Text.spaces n ++ "// unsupported capsule: " ++ i.id ∧
          ∀ first rest, Text.sourceLines i.id = first :: rest →
            Text.sourceLines line =
              (Text.spaces n ++ "// unsupported capsule: " ++ first) :: rest) ∧
      ((∀ i line, t.HasPlaceholder r platform depth is i line → IsUnbroken line.toList) ↔
        ∀ i ∈ Instance.forest is, r.supported platform i.capsuleId = none →
          IsUnbroken i.id.toList) := by
  refine ⟨fun i hi hs => Target.exists_hasPlaceholder ht hi hs depth, fun i line h => ?_, ?_⟩
  · obtain ⟨n, rfl⟩ := h.eq_comment ht
    exact ⟨n, rfl, fun first rest hid => Text.sourceLines_append (isUnbroken_comment n) hid⟩
  · constructor
    · intro hall i hi hs
      obtain ⟨line, h⟩ := Target.exists_hasPlaceholder ht hi hs depth
      obtain ⟨n, rfl⟩ := h.eq_comment ht
      have hline := hall i _ h
      rw [String.toList_append] at hline
      exact ⟨fun hmem => hline.1 (List.mem_append_right _ hmem),
        fun hmem => hline.2 (List.mem_append_right _ hmem)⟩
    · intro hall i line h
      obtain ⟨n, rfl⟩ := h.eq_comment ht
      rw [String.toList_append]
      exact (isUnbroken_comment n).append (hall i h.mem h.unsupported)

/-- An id with a line break, in the slot of a call that has another placeholder inside. -/
theorem placeholders_contained_iff_slot :
    let d : Definition :=
      { id := "card", name := "Card", platforms := [("ios", { framework := "swiftui" })] }
    let lost : Instance := { id := "a\r\nb", capsuleId := "lost" }
    let top : Instance :=
      { id := "top", capsuleId := "card", slots := [("side", [lost])]
        children := [{ id := "c", capsuleId := "lost" }] }
    Target.swift ≠ .jsx ∧ lost ∈ Instance.forest [top] ∧
      SwiftView.renderList ⟨[d]⟩ "ios" 0 [top] =
        ["Card(", "    side: \x7b", "        // unsupported capsule: a\r\nb", "    \x7d", ") \x7b",
         "    // unsupported capsule: c", "\x7d"] ∧
      ∃ line n, Target.swift.HasPlaceholder ⟨[d]⟩ "ios" 0 [top] lost line ∧
        Text.sourceLines line = [Text.spaces n ++ "// unsupported capsule: " ++ "a", "", "b"] := by
  intro d lost top
  have hlost : lost ∈ Instance.forest [top] := .tail _ (.tail _ (.head _))
  have ht : Target.swift ≠ .jsx := by
    intro heq
    cases heq
  obtain ⟨hall, hlines, -⟩ := placeholders_contained_iff .swift ht ⟨[d]⟩ "ios" 0 [top]
  obtain ⟨line, hline⟩ := hall lost hlost rfl
  obtain ⟨n, -, hsource⟩ := hlines lost line hline
  exact ⟨ht, hlost, by decide +kernel, line, n, hline, hsource "a" ["", "b"] (by decide +kernel)⟩

/-- What follows a line break in an id is a line of code on both targets. -/
theorem placeholder_leaves_comment :
    let i : Instance := { id := "x\nfatalError()", capsuleId := "lost" }
    let line := "// unsupported capsule: x\nfatalError()"
    SwiftView.render ⟨[]⟩ "ios" 0 i = [line] ∧ Composable.render ⟨[]⟩ "android" 0 i = [line] ∧
      ¬ IsUnbroken line.toList ∧
      Text.sourceLines line = ["// unsupported capsule: x", "fatalError()"] := by
  intro i line
  exact ⟨by decide +kernel, by decide +kernel, by decide, by decide +kernel⟩

end CapsuleKit

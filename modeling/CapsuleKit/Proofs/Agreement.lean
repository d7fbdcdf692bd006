import CapsuleKit.Compile.Generator
import CapsuleKit.Proofs.Check
import CapsuleKit.Proofs.Outline

/-!
# Pages and checks agree

The text of a page, the walk and the reports of a check are three readings of the same instances.
Every supported instance of the page is called once in the text, every other one has one comment, and
the comments are those for the ids in the errors of the check (`page_agrees_with_check`). An id stands in
its comment as it is, except that on a page of elements it cannot end the comment
(`comment_takes_id_apart`).
-/

namespace CapsuleKit

def Mark.comment? : Mark → Option String
  | .call _ _ => none
  | .comment text => some text

namespace Instance

variable (r : Registry) (platform : String)

/-- The instances whose capsule is not supported. -/
def unsupported (is : List Instance) : List Instance :=
  is.filter fun i => !i.isSupported r platform

theorem filterMap_comment?_marks {note : String → String} {filler : List Mark}
    (hfiller : filler.filterMap Mark.comment? = []) (i : Instance) :
    (i.marks note filler r platform).filterMap Mark.comment? =
      if i.isSupported r platform then [] else [note i.id] := by
  rw [marks, ← isSome_supported]
  cases r.supported platform i.capsuleId with
  | none => rfl
  | some d =>
    show List.filterMap _ (_ :: _) = []
    rw [List.filterMap_cons_none rfl, List.filterMap_flatMap]
    exact List.flatMap_eq_nil_iff.2 fun _ _ => hfiller

theorem flatMap_unsupported (note : String → String) (is : List Instance) :
    (is.flatMap fun i => if i.isSupported r platform then [] else [note i.id]) =
      (unsupported r platform is).map fun i => note i.id := by
  induction is with
  | nil => rfl
  | cons i is ih =>
    rw [List.flatMap_cons, ih]
    cases h : i.isSupported r platform <;> simp [unsupported, h]

end Instance

theorem Target.comments_outline_perm (t : Target) (r : Registry) (platform : String)
    (is : List Instance) :
    ((t.outline r platform is).filterMap Mark.comment?).Perm
      ((Instance.unsupported r platform (Instance.forest is)).map fun i => t.note i.id) := by
  have hfiller : t.filler.filterMap Mark.comment? = [] := by cases t <;> rfl
  have hmarks : (t.outline r platform is).Perm _ := t.outline_perm is
  have hcomments := hmarks.filterMap Mark.comment?
  rw [List.filterMap_flatMap] at hcomments
  simp only [Target.marks, Instance.filterMap_comment?_marks r platform hfiller] at hcomments
  rwa [Instance.flatMap_unsupported] at hcomments

namespace Composition

/-- The composition without the instances that are not on its page: a flat list beside a root. -/
def onPage (c : Composition) : Composition :=
  { c with capsules := if c.root.isSome then [] else c.capsules }

theorem passes_onPage (c : Composition) :
    c.onPage.rootPass ++ c.onPage.flatPass = Instance.forest c.topLevel := by
  cases h : c.root with
  | none => simp [onPage, rootPass, flatPass, topLevel, outside, h]
  | some i => simp [onPage, rootPass, flatPass, topLevel, outside, h]

theorem errors_check_onPage (c : Composition) (r : Registry) (platform : String) :
    (c.onPage.check r platform).errors = passErrors r platform (Instance.forest c.topLevel) := by
  rw [errors_check, passes_onPage]

theorem errors_onPage_prefix (c : Composition) (r : Registry) (platform : String) :
    (c.onPage.check r platform).errors <+: (c.check r platform).errors := by
  rw [errors_check_onPage, errors_check, passErrors_append]
  cases h : c.root with
  | none =>
    have hflat : c.flatPass = Instance.forest c.topLevel := by
      simp [flatPass, rootPass, outside, topLevel, h]
    have hroot : c.rootPass = [] := by simp [rootPass, h]
    rw [hflat, hroot]
    exact List.prefix_rfl
  | some i =>
    have hroot : c.rootPass = Instance.forest c.topLevel := by simp [rootPass, topLevel, h]
    rw [hroot]
    exact List.prefix_append ..

end Composition

/-- A compilation without errors has had none from the check. -/
theorem Generator.errors_check_eq_nil {g : Generator} {j : Job}
    (h : (g.compile j).errors = none) : (j.composition.check j.registry j.platform).errors = [] := by
  have hpresent : ∀ l : List Diagnostic, CompileResult.present l = none → l = [] := by
    intro l hl
    cases l with
    | nil => rfl
    | cons d ds => cases hl
  have hall := hpresent _ h
  simp only [diagnose, Diagnostics.errors_append, List.append_eq_nil_iff] at hall
  exact hall.1.2

namespace Composition

variable {c : Composition} {r : Registry} {platform : String}

theorem isSupported_of_errors_eq_nil (h : (c.check r platform).errors = []) :
    ∀ i ∈ Instance.forest c.topLevel, i.isSupported r platform = true := by
  have hpage := errors_onPage_prefix c r platform
  rw [h, List.prefix_nil, errors_check_onPage, passErrors, List.map_eq_nil_iff,
    List.filter_eq_nil_iff] at hpage
  intro i hi
  simpa using hpage i hi

end Composition

theorem errors_onPage_eq (c : Composition) (r : Registry) (platform : String) :
    ((c.onPage.check r platform).errors.map fun e => (e.code, e.capsuleId)) =
      (Instance.unsupported r platform (Instance.forest c.topLevel)).map
        fun i => ("UNSUPPORTED_CAPSULE", some i.id) := by
  rw [Composition.errors_check_onPage, passErrors, List.map_map]
  rfl

/-- Page and check agree, on all three targets and at every depth. What is written for an instance of
the page stands in its text, as a call with the labels of the instance or, without support, with a
comment for its id in front. The errors of the check on what is on the page are one for each
unsupported instance, and stand in front of its other errors. The text is read as calls and comments,
which are those of the instances, each once, so that the comments are those for the ids in the errors;
the names that a page holds as they are have to be readable for that. A compilation without errors has
no comment on its page, and a call for every instance. -/
theorem page_agrees_with_check (r : Registry) (platform : String) (c : Composition) (t : Target)
    (depth : Int) :
    (∀ i ∈ Instance.forest c.topLevel, ∃ e,
      Text.IsIn (Text.joinLines (t.render r platform e i))
          (Text.joinLines (t.renderList r platform depth c.topLevel)) ∧
        (∀ d, r.supported platform i.capsuleId = some d →
          t.IsCall e d.componentName i.propLabels i.slotLabels (t.render r platform e i)) ∧
        (r.supported platform i.capsuleId = none →
          ∃ rest, t.render r platform e i = t.comment e (t.note i.id) :: rest)) ∧
      ((c.onPage.check r platform).errors.map fun e => (e.code, e.capsuleId)) =
        (Instance.unsupported r platform (Instance.forest c.topLevel)).map
          (fun i => ("UNSUPPORTED_CAPSULE", some i.id)) ∧
      (c.onPage.check r platform).errors <+: (c.check r platform).errors ∧
      ((∀ i ∈ Instance.forest c.topLevel, t.IsNameable r platform i) →
        ∃ ms, t.read (Text.joinLines (t.renderList r platform depth c.topLevel)) = some ms ∧
          ms.Perm ((Instance.forest c.topLevel).flatMap (t.marks r platform)) ∧
          (ms.filterMap Mark.comment?).Perm
            (((c.onPage.check r platform).errors.filterMap (·.capsuleId)).map t.note) ∧
          ∀ g : Generator, (g.compile ⟨r, platform, c⟩).errors = none →
            ms.filterMap Mark.comment? = [] ∧
              ∀ i ∈ Instance.forest c.topLevel, ∃ d, r.supported platform i.capsuleId = some d ∧
                .call d.componentName i.labels ∈ ms) := by
  refine ⟨fun i hi => ?_, errors_onPage_eq c r platform, c.errors_onPage_prefix r platform,
    fun hnames => ?_⟩
  · obtain ⟨e, he⟩ : ∃ e, Text.IsIn (Text.joinLines (t.render r platform e i)) _ :=
      t.exists_isIn hi depth
    exact ⟨e, he, fun d hd => t.isCall hd e, fun hs => t.exists_render_eq hs e⟩
  · have hcomments := t.comments_outline_perm r platform c.topLevel
    refine ⟨_, t.read_renderList hnames depth, t.outline_perm c.topLevel, ?_, fun g hg => ?_⟩
    · have hids : (c.onPage.check r platform).errors.filterMap (·.capsuleId) =
          (Instance.unsupported r platform (Instance.forest c.topLevel)).map (·.id) := by
        rw [Composition.errors_check_onPage, passErrors, List.filterMap_map]
        exact congrFun List.filterMap_eq_map _
      rw [hids, List.map_map]
      exact hcomments
    · have hall := Composition.isSupported_of_errors_eq_nil (Generator.errors_check_eq_nil hg)
      have hnone : Instance.unsupported r platform (Instance.forest c.topLevel) = [] :=
        List.filter_eq_nil_iff.2 fun i hi => by simp [hall i hi]
      rw [hnone] at hcomments
      refine ⟨hcomments.eq_nil, fun i hi => ?_⟩
      obtain ⟨d, hd⟩ : ∃ d, r.supported platform i.capsuleId = some d := by
        rw [← Option.isSome_iff_exists, Instance.isSome_supported]
        exact hall i hi
      exact ⟨d, hd, t.call_mem_outline hi hd⟩

/-- A page in SwiftUI with an unsupported instance in a slot, beside an empty slot, and the page of a
compilation without errors. -/
theorem page_agrees_with_check_nested :
    let d : Definition :=
      { id := "card", name := "Card", platforms := [("ios", { framework := "swiftui" })] }
    let leaf : Instance := { id := "leaf", capsuleId := "card" }
    let lost : Instance := { id := "lost", capsuleId := "gone", children := [leaf] }
    let top : Instance :=
      { id := "top", capsuleId := "card", props := [("title", .text "x")], children := [leaf]
        slots := [("side", [lost]), ("none", [])] }
    let c : Composition := { name := "App", root := some top }
    let lines := ["Card(", "    title: \"x\",", "    side: \x7b",
      "        // unsupported capsule: lost", "        Card()", "    \x7d,", "    none: \x7b",
      "        EmptyView()", "    \x7d", ") \x7b", "    Card()", "\x7d"]
    let whole : Composition := { name := "App", capsules := [leaf] }
    SwiftView.renderList ⟨[d]⟩ "ios" 0 c.topLevel = lines ∧
      ((c.check ⟨[d]⟩ "ios").errors.map fun e => (e.code, e.capsuleId)) =
        [("UNSUPPORTED_CAPSULE", some "lost")] ∧
      (∃ ms, Target.swift.read (Text.joinLines lines) = some ms ∧
        ms.Perm [.call "Card" ["title", "side", "none"], .call "EmptyView" [], .call "Card" [],
          .comment " unsupported capsule: lost", .call "Card" []] ∧
        ms.filterMap Mark.comment? = [" unsupported capsule: lost"]) ∧
      (Generator.ios.compile ⟨⟨[d]⟩, "ios", whole⟩).errors = none ∧
      SwiftView.renderList ⟨[d]⟩ "ios" 0 whole.topLevel = ["Card()"] ∧
      ∃ ms, Target.swift.read "Card()" = some ms ∧ ms.filterMap Mark.comment? = [] := by
  intro d leaf lost top c lines whole
  have hname : d.componentName = "Card" := by decide +kernel
  have hsome : (⟨[d]⟩ : Registry).supported "ios" "card" ≠ none := Option.some_ne_none d
  have hleaf : Target.swift.IsNameable ⟨[d]⟩ "ios" leaf := ⟨fun _ => by decide, fun h => absurd h hsome⟩
  have hnames : ∀ i ∈ Instance.forest c.topLevel, Target.swift.IsNameable ⟨[d]⟩ "ios" i := by
    rw [show Instance.forest c.topLevel = [top, leaf, lost, leaf] from rfl]
    simp only [List.forall_mem_cons, List.not_mem_nil, false_implies, implies_true, and_true]
    exact ⟨⟨fun _ => by decide, fun h => absurd h hsome⟩, hleaf,
      ⟨fun _ => by decide, fun _ => by decide⟩, hleaf⟩
  have hwhole : ∀ i ∈ Instance.forest whole.topLevel, Target.swift.IsNameable ⟨[d]⟩ "ios" i := by
    rw [show Instance.forest whole.topLevel = [leaf] from rfl, List.forall_mem_singleton]
    exact hleaf
  have hlines : Target.swift.renderList ⟨[d]⟩ "ios" 0 c.topLevel = lines := by decide +kernel
  have hline : Target.swift.renderList ⟨[d]⟩ "ios" 0 whole.topLevel = ["Card()"] := by decide +kernel
  have hnone : (Generator.ios.compile ⟨⟨[d]⟩, "ios", whole⟩).errors = none := by rfl
  obtain ⟨-, herrors, -, hread⟩ := page_agrees_with_check ⟨[d]⟩ "ios" c .swift 0
  obtain ⟨ms, hms, hmarks, hcomments, -⟩ := hread hnames
  obtain ⟨ns, hns, -, -, hclean⟩ := (page_agrees_with_check ⟨[d]⟩ "ios" whole .swift 0).2.2.2 hwhole
  rw [hline, Text.joinLines_singleton] at hns
  rw [hlines] at hms
  have hids : (c.onPage.check ⟨[d]⟩ "ios").errors.filterMap (·.capsuleId) = ["lost"] := by
    decide +kernel
  have hnote : Target.swift.note "lost" = " unsupported capsule: lost" := by decide +kernel
  rw [hids, List.map_singleton, hnote, List.perm_singleton] at hcomments
  refine ⟨hlines, herrors, ⟨ms, hms, ?_, hcomments⟩, hnone, hline, ns, hns, (hclean .ios hnone).1⟩
  rw [← hname]
  exact hmarks

/-- An id that would end the comment is written with its end of a comment taken apart. -/
theorem comment_takes_id_apart :
    let c : Composition := { name := "Demo", root := some { id := "a*/b", capsuleId := "lost" } }
    let line := "\x7b/* unsupported capsule: a* /b */\x7d"
    Jsx.renderList ⟨[]⟩ "web" 0 c.topLevel = [line] ∧
      Target.jsx.read line = some [.comment " unsupported capsule: a* /b "] ∧
      (c.check ⟨[]⟩ "web").errors.map (·.capsuleId) = [some "a*/b"] := by
  intro c line
  exact ⟨by decide +kernel, by decide +kernel, by decide +kernel⟩

end CapsuleKit

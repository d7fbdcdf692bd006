import CapsuleKit.Proofs.MinimumLevels

/-!
# The major version of a package file

A deployment target is read twice. Comparing versions takes a part that is no number for zero, but
the package file takes what stands before the first point as it is. So the major version is a number
exactly if the version that was chosen starts as one (`Ios.package_major_iff`). A version that does
not may still be chosen: the configured one if nothing is later, and any other if all first numbers
are zero, because a positive one is only ever passed by another number (`Version.decimal_of_le`).
-/

namespace CapsuleKit

namespace Version

/-- What stands before the first point are ASCII digits, or nothing. -/
def StartsPlain (v : String) : Prop :=
  ∀ c ∈ (firstPart v).toList, c.isDigit = true

theorem exists_first_number {v : String} {ns : List Nat} (h : parts v = .ok ns) :
    ∃ m ms, ns = m :: ms ∧ part (firstPart v).toList = .ok m := by
  obtain ⟨ws, hws⟩ := Text.exists_splitOnP_eq_cons (· == '.') v.toList
  rw [parts, hws, List.mapM_cons] at h
  obtain ⟨m, hm, h⟩ := bind_eq_ok.1 h
  obtain ⟨ms, -, h⟩ := bind_eq_ok.1 h
  refine ⟨m, ms, (Except.ok.inj h).symm, ?_⟩
  rw [firstPart, String.toList_ofList]
  exact hm

theorem decimal_of_part_pos {cs : List Char} {m : Nat} (h : part cs = .ok m) (hpos : 0 < m) :
    ∀ c ∈ cs, (Text.decimalValue? c).isSome = true := by
  unfold part at h
  split at h
  · obtain rfl := Except.ok.inj h
    exact absurd hpos (Nat.lt_irrefl 0)
  · dsimp only at h
    split at h
    · cases h
    · split at h
      · cases h
      · rename_i hshort
        have hfront := List.takeWhile_prefix (fun c => (Text.decimalValue? c).isSome) (l := cs)
        have hlength := Nat.le_antisymm hfront.length_le (Nat.not_lt.1 hshort)
        exact List.takeWhile_eq_self_iff.1 (hfront.eq_of_length hlength)

theorem decimal_of_le {v : String} {n : Nat} {ns ps : List Nat} (hv : parts v = .ok ps)
    (hle : n :: ns ≤ ps) (hpos : 0 < n) :
    ∀ c ∈ (firstPart v).toList, (Text.decimalValue? c).isSome = true := by
  obtain ⟨m, ms, rfl, hm⟩ := exists_first_number hv
  have hfirst : n ≤ m := Nat.not_lt.1 fun hlt => not_lt_of_ge hle (List.Lex.rel hlt)
  exact decimal_of_part_pos hm (Nat.lt_of_lt_of_le hpos hfirst)

end Version

namespace Ios

/-- One or more ASCII digits. -/
def IsMajor (s : String) : Prop :=
  s ≠ "" ∧ ∀ c ∈ s.toList, c.isDigit = true

instance (s : String) : Decidable (IsMajor s) :=
  decidable_of_iff (s ≠ "" ∧ s.toList.all Char.isDigit = true) (by rw [IsMajor, List.all_eq_true])

theorem majorVersion_cases (target : String) :
    Version.firstPart target = "" ∧ majorVersion target = "16" ∨
      Version.firstPart target ≠ "" ∧ majorVersion target = Version.firstPart target := by
  unfold majorVersion Text.nonEmptyOr
  by_cases h : Version.firstPart target = ""
  · exact .inl ⟨h, if_pos (by simp [h])⟩
  · exact .inr ⟨h, if_neg (by simpa using h)⟩

theorem isMajor_majorVersion_iff (target : String) :
    IsMajor (majorVersion target) ↔ Version.StartsPlain target := by
  rcases majorVersion_cases target with ⟨hempty, hmajor⟩ | ⟨hne, hmajor⟩
  · rw [hmajor, Version.StartsPlain, hempty]
    exact iff_of_true ⟨by decide, List.all_eq_true.1 rfl⟩ (List.all_eq_true.1 rfl)
  · rw [hmajor, IsMajor, and_iff_right hne, Version.StartsPlain]

end Ios

namespace Job

variable {j : Job} {configured target : String}

/-- The minimum version among the options for the platform. -/
def configuredVersion (j : Job) : String :=
  ((j.options IosConfig.build).getD {}).minVersion

theorem isLatest_of_deploymentTarget (h : j.deploymentTarget configured = .ok target) :
    Version.IsLatest (j.candidates configured) target := by
  have hreads : ∀ v ∈ j.compared configured, ∃ ps, Version.parts v = .ok ps := by
    rintro v ⟨hv, hasks⟩
    refine exists_ok_of_not_fails fun hfails => ?_
    have hunreadable := Version.fails_parts.1 hfails
    have htarget : Fails (j.deploymentTarget configured) := by
      refine fails_deploymentTarget.2 ⟨hasks, ?_⟩
      rcases hv with rfl | hv
      · exact .inl hunreadable
      · exact .inr ⟨v, hv, hunreadable⟩
    rw [h] at htarget
    exact not_fails_ok target htarget
  obtain ⟨target', htarget', hlatest⟩ := exists_deploymentTarget hreads
  obtain rfl := Except.ok.inj (h.symm.trans htarget')
  exact hlatest

/-- A version that was compared and has a positive first number keeps all that are no numbers from
being the target. -/
theorem decimal_of_compared (h : j.deploymentTarget configured = .ok target) {v : String}
    (hv : v ∈ j.compared configured) {n : Nat} {ns : List Nat}
    (hparts : Version.parts v = .ok (n :: ns)) (hpos : 0 < n) :
    ∀ d ∈ (Version.firstPart target).toList, (Text.decimalValue? d).isSome = true := by
  obtain ⟨ps, hps, hle⟩ := (isLatest_of_deploymentTarget h).latest v hv.1 _ hparts
  exact Version.decimal_of_le hps hle hpos

end Job

namespace Ios

theorem exists_packageFile {j : Job} {target : String}
    (h : j.deploymentTarget j.configuredVersion = .ok target) :
    ∃ content before after,
      (Generator.ios.compile j).file? "Package.swift" = some ⟨"Package.swift", content, "swift"⟩ ∧
      content = Text.lines
        (before ++ ("    platforms: [.iOS(.v" ++ majorVersion target ++ ")],") :: after) ∧
      before.length = 5 := by
  have hsteps : Generator.ios.steps j =
      filesFor ((j.options IosConfig.build).getD {}) j target := by
    rw [Job.configuredVersion] at h
    rw [Generator.steps_ios, projectSteps, h]
  refine ⟨packageFile j.composition.typeName target (j.dependencies.map packageOfText),
    [_, _, _, _, _], _, ?_, rfl, rfl⟩
  rw [CompileResult.file?, Generator.files_compile, hsteps]
  rfl

/-- The major version in the package file of an app that has a deployment target. The sixth line of
the file names it. It is never empty, and it is made of ASCII digits exactly if the target is up to
its first point. The target is the configured version or one that a template in use asks for, so it
is enough that all of these start so. If a version that was compared has a positive first number,
the major version is a number at least, though its digits may be of another script. -/
theorem package_major_iff (j : Job) {target : String}
    (h : j.deploymentTarget j.configuredVersion = .ok target) :
    ∃ content major before after,
      (Generator.ios.compile j).file? "Package.swift" = some ⟨"Package.swift", content, "swift"⟩ ∧
      content = Text.lines (before ++ ("    platforms: [.iOS(.v" ++ major ++ ")],") :: after) ∧
      before.length = 5 ∧ major ≠ "" ∧
      (IsMajor major ↔ Version.StartsPlain target) ∧
      target ∈ j.candidates j.configuredVersion ∧
      ((∀ v ∈ j.candidates j.configuredVersion, Version.StartsPlain v) → IsMajor major) ∧
      ∀ v ∈ j.compared j.configuredVersion, ∀ n ns, Version.parts v = .ok (n :: ns) → 0 < n →
        ∀ d ∈ major.toList, (Text.decimalValue? d).isSome = true := by
  have hmem := (Job.isLatest_of_deploymentTarget h).mem
  have hmajor := isMajor_majorVersion_iff target
  obtain ⟨content, before, after, hfile, hcontent, hlength⟩ := exists_packageFile h
  refine ⟨content, majorVersion target, before, after, hfile, hcontent, hlength, ?_, hmajor, hmem,
    fun hall => hmajor.2 (hall target hmem), fun v hv n ns hparts hpos => ?_⟩
  · rcases majorVersion_cases target with ⟨-, heq⟩ | ⟨hne, heq⟩
    · rw [heq]
      decide
    · rwa [heq]
  · have hdecimal := Job.decimal_of_compared h hv hparts hpos
    rcases majorVersion_cases target with ⟨-, heq⟩ | ⟨-, heq⟩
    · rw [heq]
      exact List.all_eq_true.1 rfl
    · rwa [heq]

/-- A template that asks for no number at all does not pass a configured number. -/
theorem package_major_kept :
    let d : Definition :=
      { id := "card", name := "Card"
        platforms := [("ios", { framework := "swiftui", minVersion := some "latest.9" })] }
    let c : Composition :=
      { name := "App", root := some { id := "top", capsuleId := "card" }
        platformConfig := [("ios", [("minVersion", .text "17.2")])] }
    let j : Job := ⟨⟨[d]⟩, "ios", c⟩
    j.deploymentTarget j.configuredVersion = .ok "17.2" ∧ Version.StartsPlain "17.2" ∧
      ∃ content major before after,
        (Generator.ios.compile j).file? "Package.swift" = some ⟨"Package.swift", content, "swift"⟩ ∧
        content = Text.lines (before ++ ("    platforms: [.iOS(.v" ++ major ++ ")],") :: after) ∧
        IsMajor major := by
  intro d c j
  have htarget : j.deploymentTarget j.configuredVersion = .ok "17.2" := by decide +kernel
  have hstart : Version.StartsPlain "17.2" := List.all_eq_true.1 rfl
  obtain ⟨content, major, before, after, hfile, hcontent, -, -, hmajor, -⟩ :=
    package_major_iff j htarget
  exact ⟨htarget, hstart, content, major, before, after, hfile, hcontent, hmajor.2 hstart⟩

/-- Versions that are no numbers: one among the options, and one of a template that is later than
the configured one because both first numbers count as zero. -/
theorem package_major_words :
    let d : Definition :=
      { id := "card", name := "Card"
        platforms := [("ios", { framework := "swiftui", minVersion := some "beta.5" })] }
    let c : Composition :=
      { name := "App", platformConfig := [("ios", [("minVersion", .text "v16")])] }
    let c' : Composition :=
      { name := "App", root := some { id := "top", capsuleId := "card" }
        platformConfig := [("ios", [("minVersion", .text "0.1")])] }
    let j : Job := ⟨⟨[d]⟩, "ios", c⟩
    let j' : Job := ⟨⟨[d]⟩, "ios", c'⟩
    j.deploymentTarget j.configuredVersion = .ok "v16" ∧
      j'.deploymentTarget j'.configuredVersion = .ok "beta.5" ∧
      (∃ content before after,
        (Generator.ios.compile j).file? "Package.swift" = some ⟨"Package.swift", content, "swift"⟩ ∧
        content = Text.lines (before ++ "    platforms: [.iOS(.vv16)]," :: after)) ∧
      (∃ content before after,
        (Generator.ios.compile j').file? "Package.swift" =
          some ⟨"Package.swift", content, "swift"⟩ ∧
        content = Text.lines (before ++ "    platforms: [.iOS(.vbeta)]," :: after)) ∧
      ¬ IsMajor "v16" ∧ ¬ IsMajor "beta" := by
  intro d c c' j j'
  have h : j.deploymentTarget j.configuredVersion = .ok "v16" := by decide +kernel
  have h' : j'.deploymentTarget j'.configuredVersion = .ok "beta.5" := by decide +kernel
  obtain ⟨content, before, after, hfile, hcontent, -⟩ := exists_packageFile h
  obtain ⟨content', before', after', hfile', hcontent', -⟩ := exists_packageFile h'
  have hmajor : majorVersion "v16" = "v16" := by decide
  have hmajor' : majorVersion "beta.5" = "beta" := by decide
  rw [hmajor] at hcontent
  rw [hmajor'] at hcontent'
  exact ⟨h, h', ⟨content, before, after, hfile, hcontent⟩,
    ⟨content', before', after', hfile', hcontent'⟩, by decide, by decide⟩

end Ios

end CapsuleKit

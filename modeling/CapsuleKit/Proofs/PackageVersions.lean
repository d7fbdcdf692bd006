import CapsuleKit.Proofs.FrontEnd
import CapsuleKit.Proofs.Versions

/-!
# The versions of packages

Capsules list the packages they need, and different texts may ask for one package in different
versions. As a map from names to versions the packages of a job are the pinned ones of the framework
and, behind them, the listed ones in their order (`Job.lookup_packages`): a text that is listed
again adds nothing (`Package.lookup_eraseDups`), and neither does a name that is there
(`Package.lookup_foldl_addNew`). So the first version that is asked for counts, unless the name is
pinned. The package file of a desktop project pins those of the shell as well.
-/

namespace CapsuleKit

namespace Package

theorem lookup_addNew (ps : List Package) (p : Package) (name : String) :
    (addNew ps p).lookup name = (ps.lookup name).or ([p].lookup name) := by
  rw [addNew]
  split
  case isFalse => exact List.lookup_append
  case isTrue h =>
    obtain ⟨q, hq, heq⟩ := List.any_eq_true.1 h
    rw [lookup_cons, List.lookup_nil]
    split
    case isFalse => rw [Option.or_none]
    case isTrue hname =>
      have hsome : (ps.lookup name).isSome = true :=
        List.lookup_isSome_iff.2 ⟨q, hq, by rw [hname, beq_iff_eq.1 heq, beq_self_eq_true]⟩
      rw [Option.or_of_isSome hsome]

theorem lookup_foldl_addNew (new ps : List Package) (name : String) :
    (new.foldl addNew ps).lookup name = (ps.lookup name).or (new.lookup name) := by
  induction new generalizing ps with
  | nil => rw [List.foldl_nil, List.lookup_nil, Option.or_none]
  | cons p new ih =>
    rw [List.foldl_cons, ih, lookup_addNew, Option.or_assoc, ← List.lookup_append, List.singleton_append]

theorem lookup_filter_ne {d name : String} (h : (ofText d).1 ≠ name) (ds : List String) :
    ((ds.filter fun b => !b == d).map ofText).lookup name = (ds.map ofText).lookup name := by
  induction ds with
  | nil => rfl
  | cons b ds ih =>
    by_cases hb : b = d
    · subst hb
      rw [List.filter_cons_of_neg (by simp), ih, List.map_cons, lookup_cons, if_neg (Ne.symm h)]
    · rw [List.filter_cons_of_pos (by simpa using hb), List.map_cons, List.map_cons, lookup_cons,
        lookup_cons, ih]

/-- A text that is listed again adds nothing. -/
theorem lookup_eraseDups (ds : List String) (name : String) :
    (ds.eraseDups.map ofText).lookup name = (ds.map ofText).lookup name := by
  -- `eraseDups` goes on with the list without its first item, which is shorter
  induction hlength : ds.length using Nat.strong_induction_on generalizing ds with
  | h n ih =>
    subst hlength
    cases ds with
    | nil => rfl
    | cons d ds =>
      have hshorter : (ds.filter fun b => !b == d).length < (d :: ds).length :=
        Nat.lt_succ_of_le (List.length_filter_le _ _)
      rw [List.eraseDups_cons, List.map_cons, List.map_cons, lookup_cons, lookup_cons,
        ih _ hshorter _ rfl]
      split
      case isTrue => rfl
      case isFalse hname => exact lookup_filter_ne (Ne.symm hname) ds

theorem mem_names_iff (ps : List Package) (name : String) :
    name ∈ ps.map (·.1) ↔ (ps.lookup name).isSome = true := by
  rw [List.mem_map, List.lookup_isSome_iff]
  exact exists_congr fun p => and_congr_right fun _ => eq_comm.trans beq_iff_eq.symm

end Package

namespace Job

/-- The dependencies that the capsules in use list: the capsules in the order in which they are
first seen, and those of a template in its order. -/
def listed (j : Job) : List String :=
  j.composition.usedCapsules.flatMap fun id =>
    ((j.registry.template id j.platform).map (·.dependencies)).getD []

/-- The first of the listed dependencies with a name has this version. -/
def FirstListed (j : Job) (name version : String) : Prop :=
  ∃ before d after, j.listed = before ++ d :: after ∧ Package.ofText d = (name, version) ∧
    ∀ d' ∈ before, (Package.ofText d').1 ≠ name

theorem dependencies_eq (j : Job) : j.dependencies = j.listed.eraseDups := by
  have htemplates : ∀ ids : List String,
      (ids.filterMap (j.registry.template · j.platform)).flatMap (·.dependencies) =
        ids.flatMap fun id =>
          ((j.registry.template id j.platform).map (·.dependencies)).getD [] := by
    intro ids
    induction ids with
    | nil => rfl
    | cons id ids ih =>
      rw [List.flatMap_cons, ← ih, List.filterMap_cons]
      cases j.registry.template id j.platform with
      | none => rfl
      | some t => exact List.flatMap_cons
  rw [dependencies, Composition.dependencies, Composition.usedTemplates, htemplates, listed]

theorem mem_listed {j : Job} {d : String} :
    d ∈ j.listed ↔ ∃ t, j.Uses t ∧ d ∈ t.dependencies := by
  simp only [listed, List.mem_flatMap, Composition.usedCapsules, List.mem_eraseDups, List.mem_map,
    Uses]
  constructor
  · rintro ⟨_, ⟨v, hv, rfl⟩, hd⟩
    cases ht : j.registry.template v.1.capsuleId j.platform with
    | none =>
      rw [ht] at hd
      cases hd
    | some t =>
      rw [ht] at hd
      exact ⟨t, ⟨v, hv, ht⟩, hd⟩
  · rintro ⟨t, ⟨v, hv, ht⟩, hd⟩
    refine ⟨_, ⟨v, hv, rfl⟩, ?_⟩
    rw [ht]
    exact hd

theorem lookup_packages (j : Job) (name : String) :
    j.packages.lookup name =
      (frameworkPackages.lookup name).or ((j.listed.map Package.ofText).lookup name) := by
  have hnodup := Package.nodup_foldl_addNew (j.dependencies.map Package.ofText)
    (show (frameworkPackages.map (·.1)).Nodup by decide)
  rw [packages, Package.lookup_sorted hnodup, Package.lookup_foldl_addNew, dependencies_eq,
    Package.lookup_eraseDups]

theorem firstListed_iff {j : Job} {name version : String} :
    j.FirstListed name version ↔ (j.listed.map Package.ofText).lookup name = some version := by
  rw [List.lookup_eq_some_iff, FirstListed]
  constructor
  · rintro ⟨before, d, after, hlisted, hd, hbefore⟩
    refine ⟨before.map Package.ofText, after.map Package.ofText, ?_, ?_⟩
    · rw [hlisted, List.map_append, List.map_cons, hd]
    · exact List.forall_mem_map.2 fun d' hd' => bne_iff_ne.2 (hbefore d' hd').symm
  · rintro ⟨front, back, hlisted, hfront⟩
    obtain ⟨before, rest, hsplit, rfl, hrest⟩ := List.map_eq_append_iff.1 hlisted
    obtain ⟨d, after, rfl, hd, rfl⟩ := List.map_eq_cons_iff.1 hrest
    refine ⟨before, d, after, hsplit, hd, fun d' hd' => ?_⟩
    exact (bne_iff_ne.1 (List.forall_mem_map.1 hfront d' hd')).symm

theorem mem_names_packages (j : Job) (name : String) :
    name ∈ j.packages.map (·.1) ↔
      name ∈ frameworkPackages.map (·.1) ∨ ∃ d ∈ j.listed, (Package.ofText d).1 = name := by
  have hlisted : name ∈ (j.listed.map Package.ofText).map (·.1) ↔
      ∃ d ∈ j.listed, (Package.ofText d).1 = name := by
    rw [List.map_map, List.mem_map]
    rfl
  rw [Package.mem_names_iff, j.lookup_packages, Option.isSome_or, Bool.or_eq_true,
    ← Package.mem_names_iff, ← Package.mem_names_iff, hlisted]

end Job

theorem Desktop.exists_packageFile (j : Job) :
    ∃ members, (Generator.desktop.compile j).file? "package.json" =
        some ⟨"package.json", Web.jsonFile (.map members), "json"⟩ ∧
      Value.field? "dependencies" members = some (Package.toValue
        (Package.sorted (packageExtras.packages.foldl Package.pin j.packages))) := by
  obtain ⟨members, hmembers, hdependencies⟩ : ∃ members,
      Web.packageValue {} packageExtras j = .map members ∧
      Value.field? "dependencies" members = some (Package.toValue
        (Package.sorted (packageExtras.packages.foldl Package.pin j.packages))) := ⟨_, rfl, rfl⟩
  refine ⟨members, ?_, hdependencies⟩
  rw [← hmembers, CompileResult.file?, Generator.files_compile, Generator.steps_desktop]
  rfl

/-- The packages of a project, one version for a name. They stand in the order of their names, which
are those of the framework and of all that the capsules in use list. The framework is pinned, and
any other package has the version that is listed first for its name. The package file of a desktop
project has the same packages, with those of the shell pinned, in order as well. -/
theorem package_versions (j : Job) :
    (j.packages.Pairwise fun a b => a.1 < b.1) ∧
      (∀ name, name ∈ j.packages.map (·.1) ↔
        name = "react" ∨ name = "react-dom" ∨
          ∃ t, j.Uses t ∧ ∃ d ∈ t.dependencies, (Package.ofText d).1 = name) ∧
      j.packages.lookup "react" = some "^18.2.0" ∧
      j.packages.lookup "react-dom" = some "^18.2.0" ∧
      (∀ name version, name ≠ "react" → name ≠ "react-dom" →
        (j.packages.lookup name = some version ↔ j.FirstListed name version)) ∧
      ∃ members packages,
        (Generator.desktop.compile j).file? "package.json" =
          some ⟨"package.json", Web.jsonFile (.map members), "json"⟩ ∧
        Value.field? "dependencies" members = some (Package.toValue packages) ∧
        (packages.Pairwise fun a b => a.1 < b.1) ∧ (packages.map (·.1)).Nodup ∧
        ∀ name, packages.lookup name =
          (([("@tauri-apps/api", "^2.0.0"), ("@tauri-apps/plugin-shell", "^2.0.0")].lookup name).or
            (j.packages.lookup name)) := by
  refine ⟨j.pairwise_packages, fun name => ?_, ?_, ?_, fun name version hreact hdom => ?_, ?_⟩
  · have hframework : name ∈ frameworkPackages.map (·.1) ↔ name = "react" ∨ name = "react-dom" := by
      simp [frameworkPackages]
    have hlisted : (∃ d ∈ j.listed, (Package.ofText d).1 = name) ↔
        ∃ t, j.Uses t ∧ ∃ d ∈ t.dependencies, (Package.ofText d).1 = name := by
      simp only [Job.mem_listed]
      constructor
      · rintro ⟨d, ⟨t, ht, hd⟩, hname⟩
        exact ⟨t, ht, d, hd, hname⟩
      · rintro ⟨t, ht, d, hd, hname⟩
        exact ⟨d, ⟨t, ht, hd⟩, hname⟩
    rw [j.mem_names_packages, hframework, hlisted, or_assoc]
  · rw [j.lookup_packages]
    rfl
  · rw [j.lookup_packages]
    rfl
  · have hnone : frameworkPackages.lookup name = none := by
      simp [frameworkPackages, Package.lookup_cons, hreact, hdom]
    rw [j.lookup_packages, hnone, Option.none_or, Job.firstListed_iff]
  · obtain ⟨members, hfile, hdependencies⟩ := Desktop.exists_packageFile j
    have hnodup := Package.nodup_foldl_pin Desktop.packageExtras.packages j.nodup_packages
    refine ⟨members, _, hfile, hdependencies, Package.pairwise_sorted hnodup, ?_, fun name => ?_⟩
    · exact ((Package.sorted_perm _).map _).nodup_iff.2 hnodup
    · rw [Package.lookup_sorted hnodup, Package.lookup_foldl_pin (by decide)]
      rfl

end CapsuleKit

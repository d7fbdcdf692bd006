import CapsuleKit.Proofs.Failures
import CapsuleKit.Proofs.FrontEnd
import CapsuleKit.Proofs.NameGrammar
import CapsuleKit.Proofs.Toml.Texts

/-!
# The package file of the shell

The package file of a desktop project is a TOML document whose first table has the version and the
description of the composition. The name of the crate, which stands there too, can be read whatever
the composition is called (`Composition.isBareKeyChar_crateName`), and so can all that follows. So
the document can be read exactly if the version and the description are writable, and then has them
unchanged: `Desktop.shell_package_iff`.
-/

namespace CapsuleKit

open Toml (IsBasic IsWritable Draft textLine isBareKeyChar)

/-! ### The name of the crate -/

namespace Grammar

open scoped Computability

theorem isBareKeyChar_of_isSmall {c : Char} (h : isSmall c = true) : isBareKeyChar c = true := by
  rw [isSmall, Bool.or_eq_true] at h
  have halnum : c.isAlphanum = true := Text.alphanum_iff.2 (.inr h)
  simp [isBareKeyChar, halnum]

theorem isBareKeyChar_of_mem_run {cs : List Char} (h : cs ∈ run isSmall) :
    ∀ c ∈ cs, isBareKeyChar c = true := by
  cases cs with
  | nil => exact List.forall_mem_nil _
  | cons c cs => exact fun d hd => isBareKeyChar_of_isSmall (cons_mem_run.1 h d hd)

theorem isBareKeyChar_of_mem_crate {cs : List Char} (h : cs ∈ crate) :
    ∀ c ∈ cs, isBareKeyChar c = true := by
  obtain ⟨first, hfirst, rest, hrest, rfl⟩ := Language.mem_mul.1 h
  obtain ⟨_, ⟨d, hd, rfl⟩, more, hmore, rfl⟩ := Language.mem_mul.1 hfirst
  obtain ⟨words, rfl, hwords⟩ := Language.mem_kstar.1 hrest
  refine List.forall_mem_append.2 ⟨List.forall_mem_cons.2 ⟨?_, fun c hc => ?_⟩, fun c hc => ?_⟩
  · exact isBareKeyChar_of_isSmall (by rw [isSmall, hd]; rfl)
  · exact isBareKeyChar_of_isSmall (mem_kstar_one.1 hmore c hc)
  · obtain ⟨word, hword, hc⟩ := List.mem_flatten.1 hc
    obtain ⟨_, ⟨mark, hmark, rfl⟩, word, hrun, rfl⟩ := Language.mem_mul.1 (hwords word hword)
    rcases List.mem_cons.1 hc with rfl | hc
    · rw [beq_iff_eq.1 hmark]
      rfl
    · exact isBareKeyChar_of_mem_run hrun c hc

end Grammar

namespace Toml

theorem escape_of_isBareKeyChar {s : String} (h : ∀ c ∈ s.toList, isBareKeyChar c = true) :
    Text.escape s = s := by
  have hself : ∀ c ∈ s.toList, Text.escapeChar c = [c] := by
    intro c hc
    have hbare := h c hc
    unfold Text.escapeChar
    split_ifs with h₁ h₂ h₃ h₄ h₅
    case neg => rfl
    all_goals subst c; cases hbare
  rw [Text.escape, List.flatMap_congr hself, List.flatMap_singleton', String.ofList_toList]

theorem toNat_of_isBareKeyChar {c : Char} (h : isBareKeyChar c = true) :
    32 ≤ c.toNat ∧ c.toNat < 127 := by
  simp only [isBareKeyChar, Bool.or_eq_true, beq_iff_eq, Text.alphanum_iff, Text.upper_iff,
    Text.lower_iff, Text.digit_iff] at h
  rcases h with (halnum | rfl) | rfl
  · omega
  · decide
  · decide

theorem isWritable_of_isBareKeyChar {cs : List Char} (h : ∀ c ∈ cs, isBareKeyChar c = true) :
    IsWritable cs := by
  intro c hc hcontrol
  have hrange := toNat_of_isBareKeyChar (h c hc)
  omega

end Toml

theorem Composition.isBareKeyChar_crateName (c : Composition) :
    ∀ d ∈ c.crateName.toList, isBareKeyChar d = true :=
  Grammar.isBareKeyChar_of_mem_crate c.crateName_mem

/-! ### The document -/

namespace Desktop

open Toml.Draft (readLines)

/-- What the shell says about the composition: the description, or the name if there is none. -/
def description (c : Composition) : String :=
  Text.nonEmptyOr c.description c.name

def inPackage (package : Toml.Table) : Draft where
  table := [(.text "package", .map package)]
  header := ["package"]
  declared := [["package"]]

/-- A draft in the table of the library, which follows that of the package. -/
def inLibrary (package library : Toml.Table) : Draft where
  table := [(.text "package", .map package), (.text "lib", .map library)]
  header := ["lib"]
  declared := [["lib"], ["package"]]

def packageTable (c : Composition) : Toml.Table :=
  [(.text "name", .text c.crateName), (.text "version", .text c.version),
   (.text "description", .text (description c)), (.text "edition", .text "2021")]

set_option maxRecDepth 8000 in
/-- The lines of the file. Those behind the name of the library are the same for all compositions,
and leave the table of the package as it is. -/
theorem exists_cargoToml (c : Composition) :
    ∃ after,
      cargoToml c = Text.lines
        (["[package]", "name = \"" ++ c.crateName ++ "\"", textLine "version" c.version,
          textLine "description" (description c), "edition = \"2021\"", "", "[lib]",
          "name = \"" ++ c.crateName ++ "_lib\""] ++ after) ∧
      ∀ fuel package library,
        Gives (readLines (fuel + 20) (inLibrary package [(.text "name", .text library)])
          (Text.lines after).toList)
          fun d => Value.field? "package" d.table = some (.map package) := by
  refine ⟨_, rfl, fun fuel package library => .of_map ?_⟩
  simp only [Text.lines, List.map_cons, List.map_nil, String.join_cons, String.join_nil,
    String.toList_append]
  repeat rw [String.toList_ofList]
  rfl

theorem readLines_open (fuel : Nat) (rest : List Char) :
    readLines (fuel + 1) {} ("[package]\n".toList ++ rest) =
      readLines fuel (inPackage []) rest := by
  rw [String.toList_ofList]
  rfl

theorem readLines_library (fuel : Nat) (c : Composition) (rest : List Char) :
    readLines (fuel + 3) (inPackage ((packageTable c).take 3))
      ("edition = \"2021\"\n\n[lib]\n".toList ++ rest) =
      readLines fuel (inLibrary (packageTable c) []) rest := by
  rw [String.toList_ofList]
  rfl

theorem isBareKeyChar_library (c : Composition) :
    ∀ d ∈ (c.crateName ++ "_lib").toList, isBareKeyChar d = true := by
  have hlib : "_lib".toList.all isBareKeyChar = true := rfl
  rw [String.toList_append]
  exact List.forall_mem_append.2 ⟨c.isBareKeyChar_crateName, List.all_eq_true.1 hlib⟩

theorem exists_toList_cargoToml (c : Composition) :
    ∃ rest,
      (cargoToml c).toList = "[package]\n".toList ++
        ((textLine "name" c.crateName).toList ++ '\n' ::
          ((textLine "version" c.version).toList ++ '\n' ::
            ((textLine "description" (description c)).toList ++ '\n' ::
              ("edition = \"2021\"\n\n[lib]\n".toList ++
                ((textLine "name" (c.crateName ++ "_lib")).toList ++ '\n' :: rest))))) ∧
      ∀ fuel package library,
        Gives (readLines (fuel + 20) (inLibrary package [(.text "name", .text library)]) rest)
          fun d => Value.field? "package" d.table = some (.map package) := by
  obtain ⟨after, hlines, htail⟩ := exists_cargoToml c
  have hcrate := Toml.escape_of_isBareKeyChar c.isBareKeyChar_crateName
  have hlib := Toml.escape_of_isBareKeyChar (isBareKeyChar_library c)
  refine ⟨(Text.lines after).toList, ?_, htail⟩
  rw [hlines]
  simp [Text.lines_cons, Toml.toList_textLine, hcrate, hlib]

/-- The file is long enough for one step of the reader a line, eight up to the name of the library
and twenty behind it. -/
theorem exists_length_cargoToml (c : Composition) :
    ∃ fuel, (cargoToml c).length + 1 = fuel + 28 := by
  obtain ⟨rest, hlist, -⟩ := exists_toList_cargoToml c
  have hfirst : "[package]\n".toList.length = 10 := rfl
  have hedition : "edition = \"2021\"\n\n[lib]\n".toList.length = 24 := rfl
  refine Nat.exists_eq_add_of_le' ?_
  rw [← String.length_toList, hlist]
  simp only [List.length_append, List.length_cons]
  omega

theorem read_cargoToml (c : Composition) :
    (IsWritable c.version.toList → IsWritable (description c).toList →
      ∃ tables, Toml.read (cargoToml c) = .ok (.map tables) ∧
        Value.field? "package" tables = some (.map (packageTable c))) ∧
    (¬ (IsWritable c.version.toList ∧ IsWritable (description c).toList) →
      Toml.read (cargoToml c) = .error .malformed) := by
  obtain ⟨rest, hlist, htail⟩ := exists_toList_cargoToml c
  obtain ⟨fuel, hlength⟩ := exists_length_cargoToml c
  have hname : (inPackage []).assign ["name"] (.text c.crateName) =
      some (inPackage ((packageTable c).take 1)) := rfl
  have hversion : (inPackage ((packageTable c).take 1)).assign ["version"] (.text c.version) =
      some (inPackage ((packageTable c).take 2)) := rfl
  have hdescription : (inPackage ((packageTable c).take 2)).assign ["description"]
      (.text (description c)) = some (inPackage ((packageTable c).take 3)) := rfl
  have hlibrary : (inLibrary (packageTable c) []).assign ["name"] (.text (c.crateName ++ "_lib")) =
      some (inLibrary (packageTable c) [(.text "name", .text (c.crateName ++ "_lib"))]) := rfl
  rw [Toml.read, hlength, hlist, readLines_open, Draft.readLines_textLine (by decide) _ hname,
    if_pos (Toml.isWritable_of_isBareKeyChar c.isBareKeyChar_crateName),
    Draft.readLines_textLine (by decide) _ hversion,
    Draft.readLines_textLine (by decide) _ hdescription, readLines_library,
    Draft.readLines_textLine (by decide) _ hlibrary,
    if_pos (Toml.isWritable_of_isBareKeyChar (isBareKeyChar_library c))]
  constructor
  · intro hv hd
    rw [if_pos hv, if_pos hd]
    obtain ⟨d, hread, htable⟩ := htail fuel (packageTable c) (c.crateName ++ "_lib")
    rw [hread]
    exact ⟨d.table, rfl, htable⟩
  · intro h
    split_ifs with hv hd
    · exact absurd ⟨hv, hd⟩ h
    · rfl
    · rfl

theorem mem_files_cargoToml {j : Job} (h : j.pageObstacle? = none) :
    ⟨"src-tauri/Cargo.toml", cargoToml j.composition, some "toml"⟩ ∈
      (Generator.desktop.compile j).files := by
  rw [Generator.files_compile, Generator.steps_desktop, Emission.ofSteps_append_of_finished
    (Emission.failure_eq_none.2 ((Web.finishes_steps _ _ _).2 h))]
  exact List.mem_append_right _ (List.mem_cons_of_mem _ List.mem_cons_self)

/-- The version and the description in the package file of a desktop project, which is written
unless the page cannot be. The third and the fourth line of the file have them between quotes. What
stands there is a basic text of TOML exactly if no control character other than tabs, line feeds and
carriage returns is among the characters of the version, or of the description, and then stands for
just that text. If so for both, the whole file can be read, and its table of the package has both;
if not, no part of it can. -/
theorem shell_package_iff (j : Job) :
    let c := j.composition
    let described := if c.description = "" then c.name else c.description
    ∃ content version description before after,
      (j.pageObstacle? = none → ⟨"src-tauri/Cargo.toml", content, some "toml"⟩ ∈
        (Generator.desktop.compile j).files) ∧
      content = Text.lines (before ++ ["version = \"" ++ version ++ "\"",
        "description = \"" ++ description ++ "\""] ++ after) ∧ before.length = 2 ∧
      (∀ value, IsBasic version.toList value ↔
        IsWritable c.version.toList ∧ value = c.version.toList) ∧
      (∀ value, IsBasic description.toList value ↔
        IsWritable described.toList ∧ value = described.toList) ∧
      (IsWritable c.version.toList → IsWritable described.toList →
        ∃ tables package, Toml.read content = .ok (.map tables) ∧
          Value.field? "package" tables = some (.map package) ∧
          Value.field? "version" package = some (.text c.version) ∧
          Value.field? "description" package = some (.text described)) ∧
      (¬ (IsWritable c.version.toList ∧ IsWritable described.toList) →
        Toml.read content = .error .malformed) := by
  intro c described
  have hdescribed : described = description c := by
    unfold described description Text.nonEmptyOr
    simp
  obtain ⟨after, hlines, -⟩ := exists_cargoToml c
  obtain ⟨hread, hrefused⟩ := read_cargoToml c
  rw [hdescribed]
  refine ⟨cargoToml c, Text.escape c.version, Text.escape (description c), [_, _], _,
    mem_files_cargoToml, hlines, rfl, Toml.isBasic_escape_iff _, Toml.isBasic_escape_iff _,
    fun hv hd => ?_, hrefused⟩
  obtain ⟨tables, htables, hpackage⟩ := hread hv hd
  exact ⟨tables, packageTable c, htables, hpackage, rfl, rfl⟩

/-- A bell in the version and a delete character in the description stand in the file as they
are. -/
theorem shell_package_control :
    let c : Composition := { name := "Demo", version := "1.0\x07", description := "a\x7fb" }
    let j : Job := ⟨⟨[]⟩, "desktop", c⟩
    ⟨"src-tauri/Cargo.toml", cargoToml c, some "toml"⟩ ∈ (Generator.desktop.compile j).files ∧
      (∃ before after, cargoToml c = Text.lines
        (before ++ ["version = \"1.0\x07\"", "description = \"a\x7fb\""] ++ after)) ∧
      (¬ ∃ value, IsBasic "1.0\x07".toList value) ∧ (¬ ∃ value, IsBasic "a\x7fb".toList value) ∧
      Toml.read (cargoToml c) = .error .malformed := by
  intro c j
  have hversion : textLine "version" c.version = "version = \"1.0\x07\"" := by decide
  have hdescription : textLine "description" (description c) = "description = \"a\x7fb\"" := by
    decide
  obtain ⟨after, hlines, -⟩ := exists_cargoToml c
  rw [hversion, hdescription] at hlines
  refine ⟨mem_files_cargoToml (by decide), ⟨[_, _], _, hlines⟩, ?_, ?_,
    (read_cargoToml c).2 (by decide)⟩
  · rintro ⟨value, h⟩
    exact absurd (h.legal '\x07' (by decide)) (by decide)
  · rintro ⟨value, h⟩
    exact absurd (h.legal '\x7f' (by decide)) (by decide)

end Desktop

end CapsuleKit

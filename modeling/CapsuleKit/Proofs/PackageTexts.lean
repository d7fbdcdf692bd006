import CapsuleKit.Proofs.Split
import CapsuleKit.Target.Web.Packages

/-!
# Texts that name a package

A package is written as its name alone or with a version behind `@` or `:`, and both marks may stand
inside of what they divide: `@` in front of a scoped name, `:` in a version such as `workspace:*`.
The first colon is looked for before the last `@`. So `name:version` and `name` are always read
back, and `name@version` exactly if the version has no colon (`Package.spellings_read_iff`);
otherwise the text is cut inside of the version.
-/

namespace CapsuleKit.Package

/-- A name of a package: not empty, without a colon, and with `@` at most in front. -/
structure IsName (name : String) : Prop where
  ne_empty : name ≠ ""
  colon : ':' ∉ name.toList
  mark : '@' ∉ name.toList.tail

instance (name : String) : Decidable (IsName name) :=
  decidable_of_iff
    (name ≠ "" ∧ ':' ∉ name.toList ∧ '@' ∉ name.toList.tail)
    ⟨fun ⟨h₁, h₂, h₃⟩ => ⟨h₁, h₂, h₃⟩, fun h => ⟨h.1, h.2, h.3⟩⟩

theorem versionOr_toList {version : String} (h : version ≠ "") (other : String) :
    versionOr other version.toList = version := by
  rw [versionOr, String.ofList_toList, Text.nonEmptyOr, if_neg (by simpa using h)]

theorem ofText_colon {name : String} (h : ':' ∉ name.toList) (version : String) :
    ofText (name ++ ":" ++ version) = (name, versionOr latest version.toList) := by
  have htext : (name ++ ":" ++ version).toList = name.toList ++ ':' :: version.toList := by simp
  rw [ofText, htext, Text.cutAtFirst_append_cons h]
  simp only [String.ofList_toList]

theorem ofText_mark {name version : String} (hname : name ≠ "") (hcolon : ':' ∉ name.toList)
    (hversion : ':' ∉ version.toList) (hmark : '@' ∉ version.toList) :
    ofText (name ++ "@" ++ version) = (name, versionOr latest version.toList) := by
  have htext : (name ++ "@" ++ version).toList = name.toList ++ '@' :: version.toList := by simp
  have hnone : ':' ∉ name.toList ++ '@' :: version.toList := by simp [hcolon, hversion]
  obtain ⟨c, cs, hchars⟩ := List.exists_cons_of_ne_nil (mt String.toList_eq_nil_iff.1 hname)
  rw [ofText, htext, Text.cutAtFirst_eq_none hnone, Text.cutAtLast_append_cons hmark, hchars]
  simp only [← hchars, String.ofList_toList]

namespace IsName

variable {name : String} (h : IsName name)

include h

theorem ofText_eq : ofText name = (name, latest) := by
  have hcut : Text.cutAtLast '@' name.toList = none ∨
      ∃ rest, Text.cutAtLast '@' name.toList = some ([], rest) := by
    cases hchars : name.toList with
    | nil => exact .inl rfl
    | cons c cs =>
      have hmark := h.mark
      rw [hchars, List.tail_cons] at hmark
      by_cases hc : c = '@'
      · subst hc
        exact .inr ⟨cs, Text.cutAtLast_append_cons hmark []⟩
      · exact .inl (Text.cutAtLast_eq_none (by simp [Ne.symm hc, hmark]))
  rw [ofText, Text.cutAtFirst_eq_none h.colon]
  rcases hcut with hcut | ⟨rest, hcut⟩
  · simp only [hcut]
  · simp only [hcut]

theorem ofText_protocol {protocol : String} (hprotocol : ':' ∉ protocol.toList) (rest : String) :
    ofText (name ++ "@" ++ (protocol ++ ":" ++ rest)) =
      (name ++ "@" ++ protocol, versionOr latest rest.toList) := by
  have hassoc : name ++ "@" ++ (protocol ++ ":" ++ rest) =
      name ++ "@" ++ protocol ++ ":" ++ rest := by
    simp only [String.append_assoc]
  have hcolon : ':' ∉ (name ++ "@" ++ protocol).toList := by simp [h.colon, hprotocol]
  rw [hassoc, ofText_colon hcolon]

end IsName

theorem exists_protocol {version : String} (h : ':' ∈ version.toList) :
    ∃ protocol rest, version = protocol ++ ":" ++ rest ∧ ':' ∉ protocol.toList := by
  obtain ⟨front, back, hsplit, hfront⟩ := List.eq_append_cons_of_mem h
  refine ⟨String.ofList front, String.ofList back, ?_, by simpa using hfront⟩
  rw [← String.toList_inj, hsplit]
  simp

/-- The three ways to write a package. A name with a version behind a colon is read as both, and a
name alone as the latest version. A version behind `@` is read back exactly if it has no colon; else
the first colon divides the text, and what stands before it in the version goes to the name. -/
theorem spellings_read_iff {name version : String} (hname : IsName name) (hversion : version ≠ "")
    (hmark : '@' ∉ version.toList) :
    ofText (name ++ ":" ++ version) = (name, version) ∧
      ofText name = (name, "latest") ∧
      (ofText (name ++ "@" ++ version) = (name, version) ↔ ':' ∉ version.toList) ∧
      ∀ protocol rest, version = protocol ++ ":" ++ rest → ':' ∉ protocol.toList →
        ofText (name ++ "@" ++ version) =
          (name ++ "@" ++ protocol, if rest = "" then "latest" else rest) := by
  have hprotocol : ∀ protocol rest, version = protocol ++ ":" ++ rest → ':' ∉ protocol.toList →
      ofText (name ++ "@" ++ version) =
        (name ++ "@" ++ protocol, if rest = "" then "latest" else rest) := by
    rintro protocol rest rfl hcolon
    rw [hname.ofText_protocol hcolon]
    by_cases hrest : rest = ""
    · subst hrest
      rfl
    · rw [versionOr_toList hrest, if_neg hrest]
  refine ⟨?_, hname.ofText_eq, ⟨fun hread hcolon => ?_, fun hcolon => ?_⟩, hprotocol⟩
  · rw [ofText_colon hname.colon, versionOr_toList hversion]
  · obtain ⟨protocol, rest, hsplit, hfirst⟩ := exists_protocol hcolon
    rw [hprotocol protocol rest hsplit hfirst, Prod.mk.injEq] at hread
    -- The name that is read is longer than the one that was written.
    have hlength := congrArg String.length hread.1
    simp only [String.length_append] at hlength
    have hone : "@".length = 1 := rfl
    omega
  · rw [ofText_mark hname.ne_empty hname.colon hcolon hmark, versionOr_toList hversion]

/-- A scoped package with a range of versions, in all three ways. -/
theorem spellings_read_scoped :
    IsName "@scope/pkg" ∧ ofText "@scope/pkg:>=1.0 <2" = ("@scope/pkg", ">=1.0 <2") ∧
      ofText "@scope/pkg@>=1.0 <2" = ("@scope/pkg", ">=1.0 <2") ∧
      ofText "@scope/pkg" = ("@scope/pkg", "latest") := by
  have hname : IsName "@scope/pkg" := by decide
  have hversion : ">=1.0 <2" ≠ "" := by decide
  obtain ⟨hcolon, hnone, hmark, -⟩ := spellings_read_iff hname hversion (by decide)
  exact ⟨hname, hcolon, hmark.2 (by decide), hnone⟩

/-- A version that names a protocol: the name takes the protocol. -/
theorem protocol_joins_name :
    IsName "lodash" ∧ "workspace:*" ≠ "" ∧ '@' ∉ "workspace:*".toList ∧
      ofText ("lodash" ++ "@" ++ "workspace:*") = ("lodash@workspace", "*") := by
  decide

end CapsuleKit.Package

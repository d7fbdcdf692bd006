import CapsuleKit.Proofs.CaseConversions
import CapsuleKit.Proofs.Names
import CapsuleKit.Target.Desktop.Project
import Mathlib.Computability.Language

/-!
# The grammar of generated names

What a target accepts as a name is a language over characters, written with the operations of regular
expressions (`Grammar.identifier`, `Grammar.slug`, `Grammar.crate`). The words of a text in small
letters are what these languages are made of: with marks between them they are a slug or a crate
(`Grammar.joined_mem`), and with capitals in front of them a type name (`isTypeName_pascalCase`).
Fixed words stand in where a text has no word, so that the names fit whatever a composition and its
capsules are called: `generated_names_fit`.
-/

namespace CapsuleKit

open scoped Computability

namespace Grammar

/-! ### Languages -/

def one (p : Char → Bool) : Language Char :=
  {w | ∃ c, p c = true ∧ w = [c]}

def run (p : Char → Bool) : Language Char :=
  one p * (one p)∗

def isSmall (c : Char) : Bool :=
  c.isLower || c.isDigit

/-- Identifiers: `[A-Za-z_][A-Za-z0-9_]*`. -/
def identifier : Language Char :=
  one (fun c => c.isAlpha || c == '_') * (one fun c => c.isAlphanum || c == '_')∗

/-- Texts with a capital in front: `([A-Z]|_[0-9]).*`, where the point is any character. -/
def capitalized : Language Char :=
  (one Char.isUpper + one (· == '_') * one Char.isDigit) * (one fun _ => true)∗

/-- Small words with dashes between them: `[a-z0-9]+(-[a-z0-9]+)*`. -/
def slug : Language Char :=
  run isSmall * (one (· == '-') * run isSmall)∗

/-- Small words with underscores between them: `[a-z][a-z0-9]*(_[a-z0-9]+)*`. -/
def crate : Language Char :=
  one Char.isLower * (one isSmall)∗ * (one (· == '_') * run isSmall)∗

variable {p : Char → Bool} {c : Char} {cs : List Char} {L : Language Char}

theorem cons_mem_one_mul : c :: cs ∈ one p * L ↔ p c = true ∧ cs ∈ L := by
  rw [Language.mem_mul]
  constructor
  · rintro ⟨_, ⟨d, hd, rfl⟩, rest, hrest, heq⟩
    obtain ⟨rfl, rfl⟩ := List.cons.inj heq
    exact ⟨hd, hrest⟩
  · rintro ⟨hc, hcs⟩
    exact ⟨[c], ⟨c, hc, rfl⟩, cs, hcs, rfl⟩

theorem mem_kstar_one : cs ∈ (one p)∗ ↔ ∀ c ∈ cs, p c = true := by
  rw [Language.mem_kstar]
  constructor
  · rintro ⟨ws, rfl, hws⟩ c hc
    obtain ⟨w, hw, hc⟩ := List.mem_flatten.1 hc
    obtain ⟨d, hd, rfl⟩ := hws w hw
    rwa [List.mem_singleton.1 hc]
  · intro h
    refine ⟨cs.map fun c => [c], ?_, List.forall_mem_map.2 fun c hc => ⟨c, h c hc, rfl⟩⟩
    rw [← List.flatMap_def, List.flatMap_singleton']

theorem cons_mem_run : c :: cs ∈ run p ↔ ∀ d ∈ c :: cs, p d = true := by
  rw [run, cons_mem_one_mul, mem_kstar_one, List.forall_mem_cons]

theorem cons_mem_capitalized (h : c.isUpper = true) (cs : List Char) : c :: cs ∈ capitalized := by
  rw [capitalized, add_mul, Language.mem_add, cons_mem_one_mul]
  exact .inl ⟨h, mem_kstar_one.2 fun _ _ => rfl⟩

theorem underscore_mem_capitalized (h : c.isDigit = true) (cs : List Char) :
    '_' :: c :: cs ∈ capitalized := by
  rw [capitalized, add_mul, Language.mem_add, mul_assoc, cons_mem_one_mul, cons_mem_one_mul,
    cons_mem_one_mul]
  exact .inr ⟨rfl, h, mem_kstar_one.2 fun _ _ => rfl⟩

theorem mem_identifier_iff {s : String} :
    s.toList ∈ identifier ↔ Text.isPlainName s = true := by
  unfold Text.isPlainName
  cases s.toList with
  | nil =>
    refine iff_of_false (fun h => ?_) (by simp)
    obtain ⟨_, ⟨c, -, rfl⟩, rest, -, heq⟩ := Language.mem_mul.1 h
    cases heq
  | cons c cs =>
    rw [identifier, cons_mem_one_mul, mem_kstar_one, Bool.and_eq_true, List.all_eq_true]
    exact Iff.rfl

end Grammar

open Text (IsSmallWord lowerWords isSmallWord_of_mem_lowerWords)

/-! ### Words with marks between them -/

namespace Grammar

theorem mem_run_of_isSmallWord {w : List Char} (h : IsSmallWord w) : w ∈ run isSmall := by
  obtain ⟨c, cs, rfl⟩ := List.exists_cons_of_ne_nil h.ne_nil
  refine cons_mem_run.2 fun d hd => ?_
  rw [isSmall, Bool.or_eq_true]
  exact h.char hd

theorem flatMap_mem_kstar {mark : Char} {sep : String} (hsep : sep.toList = [mark])
    {ws : List String} (hws : ∀ w ∈ ws, IsSmallWord w.toList) :
    (ws.flatMap fun w => sep.toList ++ w.toList) ∈ (one (· == mark) * run isSmall)∗ := by
  rw [List.flatMap_def]
  refine Language.join_mem_kstar (List.forall_mem_map.2 fun w hw => ?_)
  rw [hsep, List.singleton_append, cons_mem_one_mul]
  exact ⟨beq_self_eq_true mark, mem_run_of_isSmallWord (hws w hw)⟩

theorem joined_mem {mark : Char} {sep : String} (hsep : sep.toList = [mark]) {w : String}
    {ws : List String} (hws : ∀ v ∈ w :: ws, IsSmallWord v.toList) :
    (String.intercalate sep (w :: ws)).toList ∈
      run isSmall * (one (· == mark) * run isSmall)∗ := by
  obtain ⟨hw, hws⟩ := List.forall_mem_cons.1 hws
  rw [Text.toList_intercalate_cons]
  exact Language.append_mem_mul (mem_run_of_isSmallWord hw) (flatMap_mem_kstar hsep hws)

theorem joined_mem_crate {w : String} {ws : List String} (hws : ∀ v ∈ w :: ws, IsSmallWord v.toList)
    (hletter : ∀ c, w.toList.head? = some c → c.isLower = true) :
    (String.intercalate "_" (w :: ws)).toList ∈ crate := by
  obtain ⟨hw, hws⟩ := List.forall_mem_cons.1 hws
  have hfirst : w.toList ∈ one Char.isLower * (one isSmall)∗ := by
    obtain ⟨c, cs, hchars⟩ := List.exists_cons_of_ne_nil hw.ne_nil
    have hrun := mem_run_of_isSmallWord hw
    rw [hchars] at hletter hrun ⊢
    rw [cons_mem_one_mul, mem_kstar_one]
    exact ⟨hletter c rfl, fun d hd => cons_mem_run.1 hrun d (List.mem_cons_of_mem c hd)⟩
  rw [Text.toList_intercalate_cons]
  exact Language.append_mem_mul hfirst (flatMap_mem_kstar rfl hws)

end Grammar

theorem exists_words (sep s : String) {other : String} (hother : IsSmallWord other.toList) :
    ∃ w ws, Text.nonEmptyOr (String.intercalate sep (lowerWords s)) other =
        String.intercalate sep (w :: ws) ∧
      ∀ v ∈ w :: ws, IsSmallWord v.toList := by
  have hwords : ∀ v ∈ lowerWords s, IsSmallWord v.toList := fun _ => isSmallWord_of_mem_lowerWords
  cases hs : lowerWords s with
  | nil => exact ⟨other, [], by simp [Text.nonEmptyOr], by simpa using hother⟩
  | cons w ws =>
    rw [hs] at hwords
    refine ⟨w, ws, ?_, hwords⟩
    have hw := (List.forall_mem_cons.1 hwords).1.ne_nil
    have hne : String.intercalate sep (w :: ws) ≠ "" := by
      intro heq
      have hchars := Text.toList_intercalate_cons sep w ws
      rw [heq] at hchars
      exact hw (List.append_eq_nil_iff.1 hchars.symm).1
    rw [Text.nonEmptyOr, if_neg (by simpa using hne)]

theorem isSmallWord_app : IsSmallWord "app".toList :=
  ⟨by decide, .inl (List.all_eq_true.1 rfl)⟩

theorem Composition.slug_mem (c : Composition) : c.slug.toList ∈ Grammar.slug := by
  obtain ⟨w, ws, hslug, hws⟩ := exists_words "-" c.name isSmallWord_app
  rw [Composition.slug, Text.kebabCase, hslug]
  exact Grammar.joined_mem rfl hws

theorem Composition.crateName_mem (c : Composition) : c.crateName.toList ∈ Grammar.crate := by
  obtain ⟨w, ws, hcrate, hws⟩ := exists_words "_" c.name isSmallWord_app
  have hw := (List.forall_mem_cons.1 hws).1
  obtain ⟨d, ds, hchars⟩ := List.exists_cons_of_ne_nil hw.ne_nil
  have hfirst : (String.intercalate "_" (w :: ws)).toList =
      d :: (ds ++ ws.flatMap fun t => "_".toList ++ t.toList) := by
    rw [Text.toList_intercalate_cons, hchars, List.cons_append]
  unfold Composition.crateName
  simp only [Text.snakeCase, hcrate, hfirst]
  split_ifs with hdigit
  · -- the word in front is one more word
    have hjoined : "app_" ++ String.intercalate "_" (w :: ws) =
        String.intercalate "_" ("app" :: w :: ws) := by
      rw [String.intercalate_cons_cons]
      rfl
    rw [hjoined]
    refine Grammar.joined_mem_crate (List.forall_mem_cons.2 ⟨isSmallWord_app, hws⟩) fun c hc => ?_
    obtain rfl := Option.some.inj hc
    rfl
  · refine Grammar.joined_mem_crate hws fun c hc => ?_
    rw [hchars] at hc
    obtain rfl := Option.some.inj hc
    exact (hw.char (hchars ▸ List.mem_cons_self)).resolve_right hdigit

/-! ### Type names -/

/-- A name for types: an identifier that starts with a capital, or with `_` and a digit. -/
structure IsTypeName (name : String) : Prop where
  ne_empty : name ≠ ""
  identifier : name.toList ∈ Grammar.identifier
  capitalized : name.toList ∈ Grammar.capitalized

namespace Text

/-- A character that a capitalized word may start with. -/
def IsTitleStart (c : Char) : Prop :=
  c.isUpper = true ∨ c.isDigit = true

theorem isTitleStart_toUpper {c : Char} (h : c.isLower = true ∨ c.isDigit = true) :
    IsTitleStart c.toUpper :=
  forall_alphanum
    (P := fun c => c.isLower = true ∨ c.isDigit = true →
      c.toUpper.isUpper = true ∨ c.toUpper.isDigit = true) (by decide) (alphanum_iff.2 (.inr h)) h

theorem exists_capitalize {w : String} (h : IsSmallWord w.toList) :
    ∃ c cs, (capitalize w).toList = c :: cs ∧ IsTitleStart c ∧ ∀ d ∈ c :: cs, d.isAlphanum = true := by
  obtain ⟨c, cs, hw⟩ := List.exists_cons_of_ne_nil h.ne_nil
  rw [hw] at h
  have hc := h.char List.mem_cons_self
  have hascii : c.toNat < 128 := by
    rw [lower_iff, digit_iff] at hc
    omega
  have hstart := isTitleStart_toUpper hc
  refine ⟨c.toUpper, cs, ?_, hstart, List.forall_mem_cons.2 ⟨?_, fun d hd => ?_⟩⟩
  · simp only [capitalize, hw, upper_of_ascii hascii, String.toList_ofList, List.singleton_append]
  · exact alphanum_iff.2 (hstart.imp_right .inr)
  · exact h.isAlphanum (List.mem_cons_of_mem c hd)

theorem pascalCase_chars (s : String) :
    (∀ c ∈ (pascalCase s).toList, c.isAlphanum = true) ∧
      ∀ c, (pascalCase s).toList.head? = some c → IsTitleStart c := by
  have hwords : ∀ v ∈ lowerWords s, IsSmallWord v.toList := fun _ => isSmallWord_of_mem_lowerWords
  rw [pascalCase]
  generalize lowerWords s = ws at hwords
  cases ws with
  | nil => simp
  | cons w ws =>
    obtain ⟨c, cs, hchars, hstart, -⟩ := exists_capitalize (List.forall_mem_cons.1 hwords).1
    constructor
    · intro d hd
      rw [String.toList_join, List.mem_flatMap] at hd
      obtain ⟨_, hmem, hd⟩ := hd
      obtain ⟨v, hv, rfl⟩ := List.mem_map.1 hmem
      obtain ⟨e, es, hchars, -, halnum⟩ := exists_capitalize (hwords v hv)
      exact halnum d (hchars ▸ hd)
    · intro d hd
      rw [List.map_cons, String.join_cons, String.toList_append, hchars] at hd
      obtain rfl := Option.some.inj hd
      exact hstart

end Text

theorem isTypeName_pascalCase (s : String) {other : String} (hother : IsTypeName other) :
    IsTypeName (Text.nonEmptyOr (Text.identifier (Text.pascalCase s)) other) := by
  by_cases hempty : Text.identifier (Text.pascalCase s) = ""
  · rw [hempty]
    exact hother
  rw [Text.nonEmptyOr, if_neg (by simpa using hempty)]
  refine ⟨hempty, Grammar.mem_identifier_iff.2 (Text.isPlainName_identifier hempty), ?_⟩
  obtain ⟨halnum, hstart⟩ := Text.pascalCase_chars s
  unfold Text.identifier at hempty ⊢
  rw [List.filter_eq_self.2 halnum] at hempty ⊢
  cases hchars : (Text.pascalCase s).toList with
  | nil => simp [hchars] at hempty
  | cons c cs =>
    dsimp only
    rw [String.toList_ofList]
    split_ifs with hdigit
    · exact Grammar.underscore_mem_capitalized hdigit cs
    · have hc : Text.IsTitleStart c := hstart c (by rw [hchars]; rfl)
      exact Grammar.cons_mem_capitalized (hc.resolve_right hdigit) cs

theorem isTypeName_capsule : IsTypeName "Capsule" :=
  ⟨by decide, Grammar.mem_identifier_iff.2 (by decide), Grammar.cons_mem_capitalized (by decide) _⟩

theorem isTypeName_app : IsTypeName "App" :=
  ⟨by decide, Grammar.mem_identifier_iff.2 (by decide), Grammar.cons_mem_capitalized (by decide) _⟩

/-- Generated names fit the grammars of their targets. Whatever a capsule and a composition are
called, the names of components and of the app are identifiers that start with a capital, or with `_`
and a digit; the slug of the app has small words with dashes between them, and the crate small words
with underscores, the first of which starts with a letter. -/
theorem generated_names_fit (d : Definition) (c : Composition) :
    IsTypeName d.componentName ∧ IsTypeName c.typeName ∧
      c.slug.toList ∈ Grammar.slug ∧ c.crateName.toList ∈ Grammar.crate := by
  have hname : ∃ s, Text.nonEmptyOr (Text.pascalCase d.name) (Text.pascalCase d.id) =
      Text.pascalCase s := by
    unfold Text.nonEmptyOr
    split_ifs
    · exact ⟨d.id, rfl⟩
    · exact ⟨d.name, rfl⟩
  obtain ⟨s, hs⟩ := hname
  refine ⟨?_, isTypeName_pascalCase c.name isTypeName_app, c.slug_mem, c.crateName_mem⟩
  simp only [Definition.componentName, hs]
  exact isTypeName_pascalCase s isTypeName_capsule

end CapsuleKit

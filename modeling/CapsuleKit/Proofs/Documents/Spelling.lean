import CapsuleKit.Capsule.Definition
import CapsuleKit.Compile.Generator
import CapsuleKit.Proofs.Documents.Instance
import CapsuleKit.Proofs.Documents.RoundTrip
import CapsuleKit.Proofs.Documents.Shape

/-!
# The spelling of members does not matter

The shapes of compositions and definitions, with all names that their members go by. Documents that
differ in the spelling of members only are both accepted and give the same model, or are both refused
(`Composition.respects`, `Definition.respects`). An overlay of platform options is kept as it is spelled
and read when a generator starts, and what it comes to does not depend on the spelling either
(`SameOptions`).
-/

namespace CapsuleKit

open Schema

/-! ### Resolved options -/

/-- Two jobs come to the same options, and the same is reported of what does not fit in them. -/
structure SameOptions {α : Type} (build : Fields → Checked α) (default : α) (j j' : Job) : Prop where
  resolved : (j.options build).getD default = (j'.options build).getD default
  reported : Generator.configDiagnostics j.platform (j.options build).problems =
    Generator.configDiagnostics j'.platform (j'.options build).problems

theorem Generator.configDiagnostics_congr (platform : String) {ps qs : List Problem}
    (h : ps.length = qs.length) :
    configDiagnostics platform ps = configDiagnostics platform qs := by
  have hempty : ps.isEmpty = qs.isEmpty := by
    rw [Bool.eq_iff_iff, List.isEmpty_iff_length_eq_zero, List.isEmpty_iff_length_eq_zero, h]
  rw [configDiagnostics, configDiagnostics, hempty, h]

/-! ### Themes -/

def Typography.members : List Member :=
  [{ spelling := ⟨"fontFamily", "font_family"⟩ }, { spelling := ⟨"headingFont", "heading_font"⟩ },
   { spelling := ⟨"monoFont", "mono_font"⟩ }, { spelling := .plain "scale" }]

theorem Typography.respects : Respects Eq decode (.model members) := by
  refine respects_model (fun _ => rfl) (fun _ => rfl) (by decide) fun es fs h => ?_
  unfold members at h
  simp only [List.forall_mem_cons] at h
  obtain ⟨hfamily, hheading, hmono, hscale, -⟩ := h
  exact (((hfamily.leaf.mapEq _).seqEq hheading.leaf).seqEq hmono.leaf).seqEq hscale.leaf

def Theme.members : List Member :=
  [{ spelling := .plain "name" }, { spelling := .plain "colors" },
   { spelling := .plain "typography", shape := .model Typography.members },
   { spelling := .plain "spacing" }, { spelling := ⟨"borderRadius", "border_radius"⟩ },
   { spelling := .plain "shadows" }]

theorem Theme.respects : Respects Eq decode (.model members) := by
  refine respects_model (fun _ => rfl) (fun _ => rfl) (by decide) fun es fs h => ?_
  unfold members at h
  simp only [List.forall_mem_cons] at h
  obtain ⟨hname, hcolors, htypography, hspacing, hradius, hshadows, -⟩ := h
  exact (((((hname.leaf.mapEq _).seqEq hcolors.leaf).seqEq
    (htypography.withDefault Typography.respects rfl)).seqEq hspacing.leaf).seqEq
    hradius.leaf).seqEq hshadows.leaf

/-! ### Definitions -/

def Template.members : List Member :=
  [{ spelling := .plain "framework" }, { spelling := .plain "code" },
   { spelling := .plain "dependencies" }, { spelling := .plain "imports" },
   { spelling := ⟨"minVersion", "min_version"⟩ }, { spelling := ⟨"minSdk", "min_sdk"⟩ }]

theorem Template.respects : Respects Eq decode (.model members) := by
  refine respects_model (fun _ => rfl) (fun _ => rfl) (by decide) fun es fs h => ?_
  unfold members at h
  simp only [List.forall_mem_cons] at h
  obtain ⟨hframework, hcode, hdependencies, himports, hversion, hsdk, -⟩ := h
  exact (((((hframework.leafRequired.mapEq _).seqEq hcode.leaf).seqEq hdependencies.leaf).seqEq
    himports.leaf).seqEq hversion.leaf).seqEq hsdk.leaf

def Definition.members : List Member :=
  [{ spelling := .plain "id" }, { spelling := .plain "name" }, { spelling := .plain "description" },
   { spelling := .plain "category" }, { spelling := .plain "tags" }, { spelling := .plain "version" },
   { spelling := .plain "props" },
   { spelling := .plain "platforms", shape := .dict fun _ => .model Template.members },
   { spelling := ⟨"acceptsChildren", "accepts_children"⟩ }, { spelling := .plain "slots" }]

theorem Definition.respects : Respects Eq decode (.model members) := by
  refine respects_model (fun _ => rfl) (fun _ => rfl) (by decide) fun es fs h => ?_
  unfold members at h
  simp only [List.forall_mem_cons] at h
  obtain ⟨hid, hname, hdescription, hcategory, htags, hversion, hprops, hplatforms, haccepts, hslots,
    -⟩ := h
  exact (((((((((hid.leafRequired.mapEq _).seqEq hname.leafRequired).seqEq hdescription.leaf).seqEq
    hcategory.leaf).seqEq htags.leaf).seqEq hversion.leaf).seqEq hprops.leaf).seqEq
    (hplatforms.withDefault (.dictEq fun _ => Template.respects) rfl)).seqEq haccepts.leaf).seqEq
    hslots.leaf

/-! ### Instances -/

namespace Instance

/-- The capsule of an instance goes by three names. -/
def capsuleMember : Member :=
  { spelling := capsuleSpelling, also := ["type"] }

/-- The members of an instance, given the shape of the instances nested in it. -/
def members (nested : Shape) : List Member :=
  [{ spelling := .plain "id" }, capsuleMember, { spelling := .plain "name" },
   { spelling := .plain "props" }, { spelling := .plain "children", shape := .list nested },
   { spelling := .plain "slots", shape := .dict fun _ => .list nested }]

/-- An instance in which members may be respelled down to a depth. -/
def shape : Nat → Shape
  | 0 => .leaf
  | depth + 1 => .model (members (shape depth))

theorem capsuleField_filter (es : Fields) :
    capsuleField (es.filter capsuleMember.spells) = capsuleField es := by
  have hfind := capsuleMember.find?_filter es
  have htype : Value.field? "type" (es.filter capsuleMember.spells) = Value.field? "type" es :=
    Member.field?_filter (by decide) es
  rw [capsuleField, capsuleField, Fields.required, Fields.required]
  rw [show capsuleMember.spelling = capsuleSpelling from rfl] at hfind
  rw [hfind, htype]

theorem capsuleField_of_present {es : Fields} {e : Scalar × Value}
    (he : es.filter capsuleMember.spells = [e]) :
    ∃ steps, capsuleField es = (text e.2).under steps := by
  obtain ⟨name, hname, hkey⟩ := Member.spells_iff.1 (Member.spells_of_filter he)
  obtain ⟨k, v⟩ := e
  obtain rfl : k = .text name := hkey
  rw [← capsuleField_filter, he]
  have hcases : name = "capsuleId" ∨ name = "capsule_id" ∨ name = "type" := by
    simpa [Member.names, capsuleMember, capsuleSpelling] using hname
  rcases hcases with rfl | rfl | rfl
  · exact ⟨[.key "capsuleId"], rfl⟩
  · exact ⟨[.key "capsule_id"], rfl⟩
  · exact ⟨[.key "capsuleId"], rfl⟩

theorem capsuleField_agrees {es fs : Fields} (h : capsuleMember.Reads es fs) :
    (capsuleField es).Agrees Eq (capsuleField fs) := by
  cases h with
  | absent he hf =>
    rw [← capsuleField_filter es, ← capsuleField_filter fs, he, hf]
    exact .refl (fun _ => rfl) _
  | present he hf _ hval =>
    obtain ⟨s, hs⟩ := capsuleField_of_present he
    obtain ⟨t, ht⟩ := capsuleField_of_present hf
    rw [hs, ht, show _ = _ from hval]
    exact (Checked.Agrees.refl (fun _ => rfl) _).under s t

theorem apart_members (nested : Shape) : Member.Apart (members nested) := by
  simp [Member.Apart, members, Member.names, capsuleMember, capsuleSpelling, Spelling.plain]

theorem respects (depth : Nat) : Respects Eq decode (shape depth) := by
  induction depth with
  | zero => exact respects_leaf (fun _ => rfl) _
  | succ depth ih =>
    refine respects_model decode_map (fun _ => rfl) (apart_members _) fun es fs h => ?_
    unfold members at h
    simp only [List.forall_mem_cons] at h
    obtain ⟨hid, hcapsule, hname, hprops, hchildren, hslots, -⟩ := h
    exact (((((hid.leafRequired.mapEq _).seqEq (capsuleField_agrees hcapsule)).seqEq
      hname.leaf).seqEq hprops.leaf).seqEq (hchildren.withDefault ih.list rfl)).seqEq
      (hslots.withDefault (.dictEq fun _ => ih.list) rfl)

theorem respects_nullable (depth : Nat) : Respects Eq (nullable decode) (shape depth) := by
  cases depth with
  | zero => exact respects_leaf (fun _ => rfl) _
  | succ depth => exact (respects (depth + 1)).nullable

end Instance

/-! ### Options of platforms -/

def WebConfig.members : List Member :=
  [{ spelling := .plain "framework" }, { spelling := .plain "typescript" },
   { spelling := .plain "styling" }, { spelling := .plain "bundler" }]

def IosConfig.members : List Member :=
  [{ spelling := .plain "framework" }, { spelling := ⟨"bundleId", "bundle_id"⟩ },
   { spelling := ⟨"minVersion", "min_version"⟩ }, { spelling := ⟨"teamId", "team_id"⟩ }]

def AndroidConfig.members : List Member :=
  [{ spelling := .plain "framework" }, { spelling := ⟨"packageName", "package_name"⟩ },
   { spelling := ⟨"minSdk", "min_sdk"⟩ }, { spelling := ⟨"targetSdk", "target_sdk"⟩ },
   { spelling := ⟨"compileSdk", "compile_sdk"⟩ }]

def DesktopConfig.members : List Member :=
  [{ spelling := .plain "framework" }, { spelling := ⟨"appId", "app_id"⟩ },
   { spelling := .plain "width" }, { spelling := .plain "height" },
   { spelling := ⟨"minWidth", "min_width"⟩ }, { spelling := ⟨"minHeight", "min_height"⟩ },
   { spelling := .plain "resizable" }]

theorem WebConfig.respects : Respects Eq decode (.model members) := by
  refine respects_model (fun _ => rfl) (fun _ => rfl) (by decide) fun es fs h => ?_
  unfold members at h
  simp only [List.forall_mem_cons] at h
  obtain ⟨hframework, htypescript, hstyling, hbundler, -⟩ := h
  exact (((hframework.leaf.mapEq _).seqEq htypescript.leaf).seqEq hstyling.leaf).seqEq hbundler.leaf

theorem IosConfig.respects : Respects Eq decode (.model members) := by
  refine respects_model (fun _ => rfl) (fun _ => rfl) (by decide) fun es fs h => ?_
  unfold members at h
  simp only [List.forall_mem_cons] at h
  obtain ⟨hframework, hbundle, hversion, hteam, -⟩ := h
  exact (((hframework.leaf.mapEq _).seqEq hbundle.leaf).seqEq hversion.leaf).seqEq hteam.leaf

theorem AndroidConfig.respects : Respects Eq decode (.model members) := by
  refine respects_model (fun _ => rfl) (fun _ => rfl) (by decide) fun es fs h => ?_
  unfold members at h
  simp only [List.forall_mem_cons] at h
  obtain ⟨hframework, hpackage, hmin, htarget, hcompile, -⟩ := h
  exact ((((hframework.leaf.mapEq _).seqEq hpackage.leaf).seqEq hmin.leaf).seqEq htarget.leaf).seqEq
    hcompile.leaf

theorem DesktopConfig.respects : Respects Eq decode (.model members) := by
  refine respects_model (fun _ => rfl) (fun _ => rfl) (by decide) fun es fs h => ?_
  unfold members at h
  simp only [List.forall_mem_cons] at h
  obtain ⟨hframework, happ, hwidth, hheight, hminWidth, hminHeight, hresizable, -⟩ := h
  exact ((((((hframework.leaf.mapEq _).seqEq happ.leaf).seqEq hwidth.leaf).seqEq hheight.leaf).seqEq
    hminWidth.leaf).seqEq hminHeight.leaf).seqEq hresizable.leaf

/-! ### Overlays -/

/-- An overlay of options: with members given, its keys are texts and the members may be respelled. -/
def Schema.Shape.overlay : Option (List Member) → Shape
  | none => .leaf
  | some members =>
    { model members with
      IsSingle := fun v => (model members).IsSingle v ∧
        ∀ es, v = .map es → ∀ e ∈ es, ∃ key, e.1 = .text key }

theorem Schema.Shape.isSingle_overlay {members : List Member} {o : List (String × Value)} :
    (overlay (some members)).IsSingle (.object o) ↔ (model members).IsSingle (.object o) := by
  refine ⟨And.left, fun h => ⟨h, ?_⟩⟩
  rintro _ ⟨⟩ e he
  obtain ⟨p, -, rfl⟩ := List.mem_map.1 he
  exact ⟨p.1, rfl⟩

/-- Overlays that are the same, or one the other with members respelled. -/
def OverlaysAgree (members : Option (List Member)) (o p : List (String × Value)) : Prop :=
  o = p ∨ ∃ ms, members = some ms ∧ (Shape.model ms).IsSingle (.object o) ∧
    (Shape.model ms).Respells (.object o) (.object p)

theorem exists_eq_object {es : List (Scalar × Value)} (h : ∀ e ∈ es, ∃ key, e.1 = .text key) :
    ∃ o, Value.map es = .object o := by
  induction es with
  | nil => exact ⟨[], rfl⟩
  | cons e es ih =>
    obtain ⟨⟨key, hkey⟩, hes⟩ := List.forall_mem_cons.1 h
    obtain ⟨o, ho⟩ := ih hes
    refine ⟨(key, e.2) :: o, ?_⟩
    rw [Value.object, List.map_cons, ← hkey]
    exact congrArg (fun es => Value.map (e :: es)) (Value.map.inj ho)

theorem texts_of_respells {members : List Member} {es fs : List (Scalar × Value)}
    (hes : ∀ e ∈ es, ∃ key, e.1 = .text key)
    (h : List.Forall₂ (fun e f => e = f ∨
      ∃ m ∈ members, m.spells e ∧ m.spells f ∧ m.shape.Respells e.2 f.2) es fs) :
    ∀ f ∈ fs, ∃ key, f.1 = .text key := by
  induction h with
  | nil => exact hes
  | @cons e f es fs hef _ ih =>
    obtain ⟨he, hes⟩ := List.forall_mem_cons.1 hes
    refine List.forall_mem_cons.2 ⟨?_, ih hes⟩
    rcases hef with rfl | ⟨m, -, -, hf, -⟩
    · exact he
    · obtain ⟨name, -, hname⟩ := Member.spells_iff.1 hf
      exact ⟨name, hname⟩

theorem respects_overlay (members : Option (List Member)) :
    Respects (OverlaysAgree members) (dict any) (.overlay members) := by
  have hrefl : ∀ o, OverlaysAgree members o o := fun _ => .inl rfl
  cases members with
  | none => exact respects_leaf hrefl _
  | some members =>
    rintro v w ⟨hsingle, htexts⟩ hvw
    rcases hvw with rfl | ⟨es, fs, rfl, rfl, hrel⟩
    · exact .refl hrefl _
    · have hfs := texts_of_respells (htexts es rfl) hrel
      obtain ⟨o, ho⟩ := exists_eq_object (htexts es rfl)
      obtain ⟨p, hp⟩ := exists_eq_object hfs
      have hrespells : (Shape.model members).Respells (.map es) (.map fs) :=
        .inr ⟨es, fs, rfl, rfl, hrel⟩
      rw [ho] at hsingle hrespells ⊢
      rw [hp] at hrespells ⊢
      rw [dict_any_object, dict_any_object]
      exact .ok (.inr ⟨members, rfl, hsingle, hrespells⟩)

/-! ### Compositions -/

namespace Composition

/-- The members of a composition, given those of the options of each platform and the depth to which
instances are looked at. -/
def members (options : String → Option (List Member)) (depth : Nat) : List Member :=
  [{ spelling := .plain "name" }, { spelling := .plain "description" },
   { spelling := .plain "version" }, { spelling := .plain "targets" },
   { spelling := .plain "root", shape := Instance.shape depth },
   { spelling := .plain "capsules", shape := .list (Instance.shape depth) },
   { spelling := .plain "theme", shape := .model Theme.members },
   { spelling := ⟨"platformConfig", "platform_config"⟩,
     shape := .dict fun platform => .overlay (options platform) }]

def shape (options : String → Option (List Member)) (depth : Nat) : Shape :=
  .model (members options depth)

/-- Compositions that are the same but for the spelling of platform options. -/
structure OptionsAgree (options : String → Option (List Member)) (c c' : Composition) : Prop where
  rest : c' = { c with platformConfig := c'.platformConfig }
  overlays : List.Forall₂ (fun p q => p.1 = q.1 ∧ OverlaysAgree (options p.1) p.2 q.2)
    c.platformConfig c'.platformConfig

variable {options : String → Option (List Member)} {c c' : Composition}

theorem OptionsAgree.refl (options : String → Option (List Member)) (c : Composition) :
    OptionsAgree options c c :=
  ⟨rfl, List.forall₂_same.2 fun _ _ => ⟨rfl, .inl rfl⟩⟩

theorem respects (options : String → Option (List Member)) (depth : Nat) :
    Respects (OptionsAgree options) decode (shape options depth) := by
  have happ : Member.Apart (members options depth) := by
    simp [Member.Apart, members, Member.names, Spelling.plain]
  refine respects_model (fun _ => rfl) (OptionsAgree.refl options) happ fun es fs h => ?_
  unfold members at h
  simp only [List.forall_mem_cons] at h
  obtain ⟨hname, hdescription, hversion, htargets, hroot, hcapsules, htheme, hconfig, -⟩ := h
  have hoverlays := hconfig.withDefault
    (.dict (fun _ _ => .inl rfl) fun platform => respects_overlay (options platform)) .nil
  -- All members but the last make the same composition, which lacks its overlays.
  refine Checked.Agrees.seq
    (F := fun φ ψ => φ = ψ ∧ ∃ c : Composition, φ = fun o => { c with platformConfig := o })
    ?_ hoverlays ?_
  · refine (Checked.Agrees.withOk (((((((hname.leafRequired.mapEq _).seqEq hdescription.leaf).seqEq
      hversion.leaf).seqEq htargets.leaf).seqEq
      (hroot.withDefault (Instance.respects_nullable depth) rfl)).seqEq
      (hcapsules.withDefault (Instance.respects depth).list rfl)).seqEq
      (htheme.withDefault Theme.respects rfl))).mono ?_
    rintro φ _ ⟨hφ, rfl⟩
    simp only [Checked.seq_eq_ok, Checked.map_eq_ok] at hφ
    obtain ⟨_, theme, ⟨_, capsules, ⟨_, root, ⟨_, targets, ⟨_, version, ⟨_, description,
      ⟨name, -, rfl⟩, -, rfl⟩, -, rfl⟩, -, rfl⟩, -, rfl⟩, -, rfl⟩, -, rfl⟩ := hφ
    exact ⟨rfl, ⟨name, description, version, targets, root, capsules, theme, []⟩, rfl⟩
  · rintro _ _ o o' ⟨rfl, c, rfl⟩ ho
    exact ⟨rfl, ho⟩

theorem OptionsAgree.eq (h : OptionsAgree (fun _ => none) c c') : c = c' := by
  have hconfig : c.platformConfig = c'.platformConfig := by
    rw [← List.forall₂_eq_eq_eq]
    refine h.overlays.imp fun p q hpq => Prod.ext hpq.1 ?_
    rcases hpq.2 with h | ⟨ms, hms, -⟩
    · exact h
    · cases hms
  rw [h.rest, ← hconfig]

theorem OptionsAgree.overlay (h : OptionsAgree options c c') (platform : String) :
    OverlaysAgree (options platform) (c.overlay platform) (c'.overlay platform) := by
  obtain ⟨-, h⟩ := h
  rw [Composition.overlay, Composition.overlay]
  generalize c.platformConfig = ps at h
  generalize c'.platformConfig = qs at h
  induction h with
  | nil => exact .inl rfl
  | @cons p q ps qs hpq _ ih =>
    obtain ⟨key, o⟩ := p
    obtain ⟨key', o'⟩ := q
    obtain ⟨rfl, ho⟩ := hpq
    by_cases hkey : platform = key
    · subst hkey
      rwa [List.lookup_cons_self, List.lookup_cons_self]
    · rwa [List.lookup_cons, List.lookup_cons, beq_false_of_ne hkey]

end Composition

/-! ### Respelled documents -/

theorem Composition.OptionsAgree.sameOptions {options : String → Option (List Member)}
    {c c' : Composition} (h : OptionsAgree options c c') {α : Type} {build : Fields → Checked α}
    {members : List Member} (hbuild : Respects Eq (model build) (.model members)) {platform : String}
    (hmembers : options platform = some members) (default : α) (r : Registry) :
    SameOptions build default ⟨r, platform, c⟩ ⟨r, platform, c'⟩ := by
  have hagrees : ((⟨r, platform, c⟩ : Job).options build).Agrees Eq
      ((⟨r, platform, c'⟩ : Job).options build) := by
    change (model build (.object (c.overlay platform))).Agrees Eq
      (model build (.object (c'.overlay platform)))
    rcases h.overlay platform with heq | ⟨ms, hms, hsingle, hrespells⟩
    · rw [heq]
      exact .refl (fun _ => rfl) _
    · obtain rfl : members = ms := Option.some.inj (hmembers.symm.trans hms)
      exact hbuild _ _ hsingle hrespells
  exact ⟨hagrees.getD_eq default, Generator.configDiagnostics_congr platform hagrees.length_problems⟩

/-- The members that the options of each platform have. -/
def optionMembers (platform : String) : Option (List Member) :=
  [("web", WebConfig.members), ("ios", IosConfig.members), ("android", AndroidConfig.members),
    ("desktop", DesktopConfig.members)].lookup platform

/-- A document in which no object spells a member twice may have members respelled at any depth. It is
accepted or refused as before, as a composition and as a definition, and gives the same model. Where
platform options are respelled as well, the composition is the same but for these, and on each platform
they come to the same options with the same warning, if any. -/
theorem respelled_document_agrees :
    (∀ depth v w, (Composition.shape (fun _ => none) depth).IsSingle v →
      (Composition.shape (fun _ => none) depth).Respells v w →
      (Composition.decode v).Agrees Eq (Composition.decode w)) ∧
    (∀ v w, (Shape.model Definition.members).IsSingle v →
      (Shape.model Definition.members).Respells v w →
      (Definition.decode v).Agrees Eq (Definition.decode w)) ∧
    ∀ depth v w, (Composition.shape optionMembers depth).IsSingle v →
      (Composition.shape optionMembers depth).Respells v w →
      (Composition.decode v).Agrees
        (fun c c' => c' = { c with platformConfig := c'.platformConfig } ∧ ∀ r,
          SameOptions WebConfig.build {} ⟨r, "web", c⟩ ⟨r, "web", c'⟩ ∧
          SameOptions IosConfig.build {} ⟨r, "ios", c⟩ ⟨r, "ios", c'⟩ ∧
          SameOptions AndroidConfig.build {} ⟨r, "android", c⟩ ⟨r, "android", c'⟩ ∧
          SameOptions DesktopConfig.build {} ⟨r, "desktop", c⟩ ⟨r, "desktop", c'⟩)
        (Composition.decode w) := by
  refine ⟨fun depth v w hsingle h => ?_, Definition.respects, fun depth v w hsingle h => ?_⟩
  · exact (Composition.respects _ depth v w hsingle h).mono fun _ _ => Composition.OptionsAgree.eq
  · refine (Composition.respects _ depth v w hsingle h).mono fun c c' hc => ⟨hc.rest, fun r => ?_⟩
    exact ⟨hc.sameOptions WebConfig.respects rfl _ r, hc.sameOptions IosConfig.respects rfl _ r,
      hc.sameOptions AndroidConfig.respects rfl _ r, hc.sameOptions DesktopConfig.respects rfl _ r⟩

/-- A nested instance, a theme, a template and an overlay in two spellings. -/
theorem respelled_document_agrees_nested :
    let page (radius capsule nested : String) : Value := .object
      [("name", .text "App"), ("theme", .object [(radius, .text "sm")]),
       ("root", .object [("id", .text "top"), (capsule, .text "card"),
        ("children", .list [.object [("id", .text "leaf"), (nested, .text "note")]])])]
    let card (accepts sdk : String) : Value := .object
      [("id", .text "card"), ("name", .text "Card"), (accepts, .bool true),
       ("platforms", .object [("android", .object [("framework", .text "x"), (sdk, .int 24)])])]
    let app (options bundle : String) : Value := .object
      [("name", .text "App"), (options, .object [("ios", .object [(bundle, .text "a.b")])])]
    (Composition.decode (page "borderRadius" "type" "capsuleId")).Agrees Eq
      (Composition.decode (page "border_radius" "capsuleId" "capsule_id")) ∧
    (Definition.decode (card "acceptsChildren" "minSdk")).Agrees Eq
      (Definition.decode (card "accepts_children" "min_sdk")) ∧
    (Composition.decode (app "platformConfig" "bundleId")).Agrees
      (fun c c' => ∀ r, SameOptions IosConfig.build {} ⟨r, "ios", c⟩ ⟨r, "ios", c'⟩)
      (Composition.decode (app "platform_config" "bundle_id")) := by
  intro page card app
  obtain ⟨hcompositions, hdefinitions, hoptions⟩ := respelled_document_agrees
  refine ⟨hcompositions 2 _ _ ?_ ?_, hdefinitions _ _ ?_ ?_,
    (hoptions 0 _ _ ?_ ?_).mono fun c c' h r => (h.2 r).2.1⟩
  · simp [page, Composition.shape, Composition.members, Shape.isSingle_model, Shape.isSingle_leaf,
      Shape.isSingle_list, Member.names, Theme.members, Instance.shape, Instance.members,
      Instance.capsuleMember, Instance.capsuleSpelling, Spelling.plain]
  · have htheme : (Shape.model Theme.members).Respells (.object [("borderRadius", .text "sm")])
        (.object [("border_radius", .text "sm")]) :=
      Shape.respells_model (.cons (Shape.respelled 4 (by decide) (by decide) rfl) .nil)
    have hleaf : (Instance.shape 1).Respells
        (.object [("id", .text "leaf"), ("capsuleId", .text "note")])
        (.object [("id", .text "leaf"), ("capsule_id", .text "note")]) :=
      Shape.respells_model
        (.cons (.inl rfl) (.cons (Shape.respelled 1 (by decide) (by decide) rfl) .nil))
    refine Shape.respells_model (.cons (.inl rfl)
      (.cons (Shape.respelled 6 (by decide) (by decide) htheme)
        (.cons (Shape.respelled 4 (by decide) (by decide) ?_) .nil)))
    exact Shape.respells_model (.cons (.inl rfl)
      (.cons (Shape.respelled 1 (by decide) (by decide) rfl)
        (.cons (Shape.respelled 4 (by decide) (by decide)
          (Shape.respells_list (.cons hleaf .nil))) .nil)))
  · simp [card, Definition.members, Shape.isSingle_model, Shape.isSingle_dict, Shape.isSingle_leaf,
      Template.members, Member.names, Spelling.plain]
  · have htemplate : (Shape.model Template.members).Respells
        (.object [("framework", .text "x"), ("minSdk", .int 24)])
        (.object [("framework", .text "x"), ("min_sdk", .int 24)]) :=
      Shape.respells_model
        (.cons (.inl rfl) (.cons (Shape.respelled 5 (by decide) (by decide) rfl) .nil))
    exact Shape.respells_model (.cons (.inl rfl) (.cons (.inl rfl)
      (.cons (Shape.respelled 8 (by decide) (by decide) rfl)
        (.cons (Shape.respelled 7 (by decide) (by decide)
          (Shape.respells_dict (.cons ⟨rfl, htemplate⟩ .nil))) .nil))))
  · have hios : optionMembers "ios" = some IosConfig.members := rfl
    simp [app, Composition.shape, Composition.members, Shape.isSingle_model, Shape.isSingle_dict,
      Shape.isSingle_overlay, Shape.isSingle_leaf, Member.names, Spelling.plain, hios,
      IosConfig.members]
  · have hbundle : (Shape.model IosConfig.members).Respells (.object [("bundleId", .text "a.b")])
        (.object [("bundle_id", .text "a.b")]) :=
      Shape.respells_model (.cons (Shape.respelled 1 (by decide) (by decide) rfl) .nil)
    exact Shape.respells_model (.cons (.inl rfl)
      (.cons (Shape.respelled 7 (by decide) (by decide)
        (Shape.respells_dict (.cons ⟨rfl, hbundle⟩ .nil))) .nil))

end CapsuleKit

import CapsuleKit.Schema.Decode
import Mathlib.Data.List.Forall2
import Mathlib.Data.List.Pairwise

/-!
# Shapes of documents

A `Shape` says where the models stand in a document: which members an object has there, by which names
each of them goes, and the shape of its value. `Shape.Respells` relates two documents of which one is
the other with members spelled by other names of theirs, at any depth, and `Shape.IsSingle` says that
no object spells a member twice. A decoder `Respects` a shape if respelled documents come out alike,
and it does if its parts do (`Respects.list`, `Respects.dict`, `respects_model`).
-/

namespace CapsuleKit.Schema

/-! ### Checks that come out alike -/

/-- Both checks give values, which are related, or both find as many problems. -/
inductive Checked.Agrees {α β : Type} (R : α → β → Prop) : Checked α → Checked β → Prop
  | ok {a : α} {b : β} (h : R a b) : Agrees R (.ok a) (.ok b)
  | bad {ps qs : List Problem} (h : ps.length = qs.length) : Agrees R (.bad ps) (.bad qs)

namespace Checked.Agrees

variable {α β γ δ : Type}

theorem refl {R : α → α → Prop} (hR : ∀ a, R a a) (x : Checked α) : x.Agrees R x := by
  cases x with
  | ok a => exact .ok (hR a)
  | bad ps => exact .bad rfl

theorem mono {R S : α → β → Prop} {x : Checked α} {y : Checked β} (h : x.Agrees R y)
    (hRS : ∀ a b, R a b → S a b) : x.Agrees S y := by
  cases h with
  | ok h => exact .ok (hRS _ _ h)
  | bad h => exact .bad h

theorem under {R : α → β → Prop} {x : Checked α} {y : Checked β} (h : x.Agrees R y)
    (s t : List Step) : (x.under s).Agrees R (y.under t) := by
  cases h with
  | ok h => exact .ok h
  | bad h => exact .bad (by simpa using h)

theorem map {R : α → β → Prop} {S : γ → δ → Prop} {f : α → γ} {g : β → δ} {x : Checked α}
    {y : Checked β} (h : x.Agrees R y) (hfg : ∀ a b, R a b → S (f a) (g b)) :
    (f <$> x).Agrees S (g <$> y) := by
  cases h with
  | ok h => exact .ok (hfg _ _ h)
  | bad h => exact .bad h

theorem seq {F : (α → γ) → (β → δ) → Prop} {R : α → β → Prop} {S : γ → δ → Prop}
    {f : Checked (α → γ)} {g : Checked (β → δ)} {x : Checked α} {y : Checked β}
    (hf : f.Agrees F g) (hx : x.Agrees R y) (h : ∀ φ ψ a b, F φ ψ → R a b → S (φ a) (ψ b)) :
    (f <*> x).Agrees S (g <*> y) := by
  cases hf with
  | ok hf =>
    cases hx with
    | ok hx => exact .ok (h _ _ _ _ hf hx)
    | bad hx => exact .bad hx
  | bad hf =>
    cases hx with
    | ok hx => exact .bad hf
    | bad hx => exact .bad (by simp [hf, hx])

theorem withOk {x y : Checked α} (h : x.Agrees Eq y) : x.Agrees (fun a b => x = .ok a ∧ a = b) y := by
  cases h with
  | ok h => exact .ok ⟨rfl, h⟩
  | bad h => exact .bad h

theorem mapEq {x y : Checked α} (h : x.Agrees Eq y) (f : α → γ) : (f <$> x).Agrees Eq (f <$> y) :=
  h.map fun _ _ => congrArg f

theorem seqEq {f g : Checked (α → γ)} {x y : Checked α} (hf : f.Agrees Eq g) (hx : x.Agrees Eq y) :
    (f <*> x).Agrees Eq (g <*> y) :=
  hf.seq hx fun _ _ _ _ => congr

theorem getD_eq {x y : Checked α} (h : x.Agrees Eq y) (default : α) :
    x.getD default = y.getD default := by
  cases h with
  | ok h => exact h
  | bad _ => rfl

theorem length_problems {R : α → β → Prop} {x : Checked α} {y : Checked β} (h : x.Agrees R y) :
    x.problems.length = y.problems.length := by
  cases h with
  | ok _ => rfl
  | bad h => exact h

end Checked.Agrees

theorem items_agrees {α : Type} {d : Decoder α} {vs ws : List Value}
    (h : List.Forall₂ (fun v w => (d v).Agrees Eq (d w)) vs ws) (n : Nat) :
    (items d n vs).Agrees Eq (items d n ws) := by
  induction h generalizing n with
  | nil => exact .ok rfl
  | cons hv _ ih => exact ((hv.under _ _).mapEq _).seqEq (ih (n + 1))

theorem entries_agrees {α : Type} {d : Decoder α} {R : String → α → α → Prop}
    (hR : ∀ key a, R key a a) {es fs : List (Scalar × Value)}
    (h : List.Forall₂ (fun e f => e = f ∨ ∃ key, e.1 = .text key ∧ f.1 = .text key ∧
      (d e.2).Agrees (R key) (d f.2)) es fs) :
    (entries d es).Agrees (List.Forall₂ fun p q => p.1 = q.1 ∧ R p.1 p.2 q.2) (entries d fs) := by
  induction h with
  | nil => exact .ok .nil
  | @cons e f es fs hef _ ih =>
    obtain ⟨k, v⟩ := e
    obtain ⟨l, w⟩ := f
    rw [entries, entries]
    -- A name and a value on either side make functions that put related entries in front.
    refine Checked.Agrees.seq (F := fun φ ψ => ∃ p q : String × α,
      (p.1 = q.1 ∧ R p.1 p.2 q.2) ∧ φ = (p :: ·) ∧ ψ = (q :: ·)) ?_ ih ?_
    · rcases hef with hef | ⟨key, hk, hl, hvw⟩
      · obtain ⟨rfl, rfl⟩ := Prod.mk.inj hef
        have hname := (Checked.Agrees.refl (R := Eq) (fun _ => rfl) (textKey k)).map
          (f := fun name a rest => (name, a) :: rest) (g := fun name a rest => (name, a) :: rest)
          (S := fun φ ψ => ∃ name, φ = (fun (a : α) rest => (name, a) :: rest) ∧ ψ = φ)
          fun name _ h => ⟨name, rfl, h ▸ rfl⟩
        have hvalue := Checked.Agrees.refl (R := Eq) (fun _ => rfl) ((d v).under [keyStep k])
        refine hname.seq hvalue ?_
        rintro _ _ a _ ⟨name, rfl, rfl⟩ rfl
        exact ⟨(name, a), (name, a), ⟨rfl, hR name a⟩, rfl, rfl⟩
      · obtain rfl : k = .text key := hk
        obtain rfl : l = .text key := hl
        refine Checked.Agrees.seq (F := fun φ ψ => φ = (fun a rest => (key, a) :: rest) ∧ ψ = φ)
          (.ok ⟨rfl, rfl⟩) (hvw.under _ _) ?_
        rintro _ _ a b ⟨rfl, rfl⟩ hab
        exact ⟨(key, a), (key, b), ⟨rfl, hab⟩, rfl, rfl⟩
    · rintro _ _ as bs ⟨p, q, hpq, rfl, rfl⟩ has
      exact .cons hpq has

/-! ### Shapes -/

/-- Where the models stand in a document. -/
structure Shape where
  /-- No object spells a member twice. -/
  IsSingle : Value → Prop
  /-- One document is the other with members spelled by other names. -/
  Respells : Value → Value → Prop
  respells_self : ∀ v, Respells v v

/-- A value in which nothing may be respelled. -/
def Shape.leaf : Shape where
  IsSingle _ := True
  Respells := Eq
  respells_self _ := rfl

/-- A member of a model: its spelling, the names that stand in for it and the shape of its value. -/
structure Member where
  spelling : Spelling
  also : List String := []
  shape : Shape := .leaf

namespace Member

/-- All names that the member goes by. -/
def names (m : Member) : List String :=
  m.spelling.short :: m.spelling.long :: m.also

def spells (m : Member) (e : Scalar × Value) : Bool :=
  m.names.any fun name => e.1 = .text name

/-- No name is that of two members. -/
def Apart (members : List Member) : Prop :=
  members.Pairwise fun m n => ∀ name ∈ m.names, name ∉ n.names

instance : DecidablePred Apart := fun members =>
  inferInstanceAs (Decidable (members.Pairwise _))

theorem spells_iff {m : Member} {e : Scalar × Value} :
    m.spells e ↔ ∃ name ∈ m.names, e.1 = .text name := by
  simp [spells]

theorem eq_of_spells {members : List Member} (h : Apart members) {m n : Member}
    (hm : m ∈ members) (hn : n ∈ members) {e : Scalar × Value} (hme : m.spells e)
    (hne : n.spells e) : m = n := by
  obtain ⟨a, ha, hea⟩ := spells_iff.1 hme
  obtain ⟨b, hb, heb⟩ := spells_iff.1 hne
  obtain rfl : a = b := by simpa [heb] using hea.symm
  by_contra hmn
  have : Std.Symm fun m n : Member => ∀ name ∈ m.names, name ∉ n.names :=
    ⟨fun _ _ h name hn hm => h name hm hn⟩
  exact h.forall hm hn hmn a ha hb

end Member

namespace Shape

/-- A list whose items have a shape. -/
def list (item : Shape) : Shape where
  IsSingle v := ∀ vs, v = .list vs → ∀ x ∈ vs, item.IsSingle x
  Respells v w := v = w ∨ ∃ vs ws, v = .list vs ∧ w = .list ws ∧ List.Forall₂ item.Respells vs ws
  respells_self _ := .inl rfl

/-- An object whose keys are data, with a shape for the value at each key. -/
def dict (entry : String → Shape) : Shape where
  IsSingle v := ∀ es, v = .map es → ∀ key x, (.text key, x) ∈ es → (entry key).IsSingle x
  Respells v w := v = w ∨ ∃ es fs, v = .map es ∧ w = .map fs ∧
    List.Forall₂ (fun e f => e = f ∨
      ∃ key, e.1 = .text key ∧ f.1 = .text key ∧ (entry key).Respells e.2 f.2) es fs
  respells_self _ := .inl rfl

/-- An object with the members of a model. Other entries stay as they are. -/
def model (members : List Member) : Shape where
  IsSingle v := ∀ es, v = .map es → ∀ m ∈ members,
    (es.filter m.spells).length ≤ 1 ∧ ∀ e ∈ es, m.spells e → m.shape.IsSingle e.2
  Respells v w := v = w ∨ ∃ es fs, v = .map es ∧ w = .map fs ∧
    List.Forall₂ (fun e f => e = f ∨
      ∃ m ∈ members, m.spells e ∧ m.spells f ∧ m.shape.Respells e.2 f.2) es fs
  respells_self _ := .inl rfl

theorem isSingle_leaf (v : Value) : leaf.IsSingle v := trivial

theorem isSingle_list {s : Shape} {vs : List Value} :
    (list s).IsSingle (.list vs) ↔ ∀ v ∈ vs, s.IsSingle v :=
  ⟨fun h => h vs rfl, fun h _ hvs => Value.list.inj hvs ▸ h⟩

theorem isSingle_dict {s : String → Shape} {o : List (String × Value)} :
    (dict s).IsSingle (.object o) ↔ ∀ p ∈ o, (s p.1).IsSingle p.2 := by
  simp [dict, Value.object]

theorem isSingle_model {members : List Member} {o : List (String × Value)} :
    (model members).IsSingle (.object o) ↔ ∀ m ∈ members,
      (o.filter fun p => p.1 ∈ m.names).length ≤ 1 ∧ ∀ p ∈ o, p.1 ∈ m.names → m.shape.IsSingle p.2 := by
  have hspells : ∀ (m : Member) (p : String × Value),
      m.spells (.text p.1, p.2) = decide (p.1 ∈ m.names) := by
    intro m p
    simp [Member.spells, List.any_eq]
  simp only [model, Value.object, Value.map.injEq, forall_eq', List.filter_map, Function.comp_def,
    List.length_map, List.forall_mem_map, hspells, decide_eq_true_eq]

theorem respells_model {members : List Member} {o p : List (String × Value)}
    (h : List.Forall₂ (fun a b => a = b ∨ ∃ m ∈ members, a.1 ∈ m.names ∧ b.1 ∈ m.names ∧
      m.shape.Respells a.2 b.2) o p) : (model members).Respells (.object o) (.object p) := by
  refine .inr ⟨_, _, rfl, rfl, ?_⟩
  rw [List.forall₂_map_left_iff, List.forall₂_map_right_iff]
  refine h.imp fun a b hab => ?_
  rcases hab with rfl | ⟨m, hm, ha, hb, hval⟩
  · exact .inl rfl
  · exact .inr ⟨m, hm, Member.spells_iff.2 ⟨a.1, ha, rfl⟩, Member.spells_iff.2 ⟨b.1, hb, rfl⟩, hval⟩

theorem respelled {members : List Member} {a b : String × Value} (n : Nat) (hn : n < members.length)
    (hnames : a.1 ∈ members[n].names ∧ b.1 ∈ members[n].names)
    (h : members[n].shape.Respells a.2 b.2) :
    a = b ∨ ∃ m ∈ members, a.1 ∈ m.names ∧ b.1 ∈ m.names ∧ m.shape.Respells a.2 b.2 :=
  .inr ⟨members[n], List.getElem_mem hn, hnames.1, hnames.2, h⟩

theorem respells_dict {s : String → Shape} {o p : List (String × Value)}
    (h : List.Forall₂ (fun a b => a.1 = b.1 ∧ (s a.1).Respells a.2 b.2) o p) :
    (dict s).Respells (.object o) (.object p) := by
  refine .inr ⟨_, _, rfl, rfl, ?_⟩
  rw [List.forall₂_map_left_iff, List.forall₂_map_right_iff]
  exact h.imp fun a b hab => .inr ⟨a.1, rfl, congrArg Scalar.text hab.1.symm, hab.2⟩

theorem respells_list {s : Shape} {vs ws : List Value} (h : List.Forall₂ s.Respells vs ws) :
    (list s).Respells (.list vs) (.list ws) :=
  .inr ⟨vs, ws, rfl, rfl, h⟩

end Shape

/-! ### Members of respelled objects -/

/-- A member of two objects: both have none, or one each, the one respelled as the other. -/
inductive Member.Reads (m : Member) (es fs : Fields) : Prop
  | absent (he : es.filter m.spells = []) (hf : fs.filter m.spells = [])
  | present {e f : Scalar × Value} (he : es.filter m.spells = [e]) (hf : fs.filter m.spells = [f])
      (hsingle : m.shape.IsSingle e.2) (h : m.shape.Respells e.2 f.2)

theorem Member.reads_of_respells {members : List Member} (happ : Apart members) {es fs : Fields}
    (hsingle : ∀ m ∈ members,
      (es.filter m.spells).length ≤ 1 ∧ ∀ e ∈ es, m.spells e → m.shape.IsSingle e.2)
    (h : List.Forall₂ (fun e f => e = f ∨
      ∃ m ∈ members, m.spells e ∧ m.spells f ∧ m.shape.Respells e.2 f.2) es fs)
    {m : Member} (hm : m ∈ members) : m.Reads es fs := by
  -- An entry that is the member on one side is so on the other.
  have hentry : List.Forall₂ (fun e f => (m.spells e ↔ m.spells f) ∧
      (m.spells e → m.shape.Respells e.2 f.2)) es fs := by
    refine h.imp fun e f hef => ?_
    rcases hef with rfl | ⟨n, hn, hne, hnf, hval⟩
    · exact ⟨Iff.rfl, fun _ => m.shape.respells_self _⟩
    · refine ⟨⟨fun hme => ?_, fun hmf => ?_⟩, fun hme => ?_⟩
      · exact eq_of_spells happ hm hn hme hne ▸ hnf
      · exact eq_of_spells happ hm hn hmf hnf ▸ hne
      · exact eq_of_spells happ hm hn hme hne ▸ hval
  have hfilter := List.rel_filter (p := m.spells) (q := m.spells) (fun e f hef => hef.1) hentry
  obtain ⟨hlen, hval⟩ := hsingle m hm
  generalize hes : es.filter m.spells = es' at hlen hfilter
  generalize hfs : fs.filter m.spells = fs' at hfilter
  cases hfilter with
  | nil => exact .absent hes hfs
  | @cons e f es' fs' hef htail =>
    obtain rfl : es' = [] := List.length_eq_zero_iff.1 (by simpa using hlen)
    cases htail
    have hmem : e ∈ es.filter m.spells := hes ▸ List.mem_singleton_self e
    obtain ⟨he, hme⟩ := List.mem_filter.1 hmem
    exact .present hes hfs (hval e he hme) (hef.2 hme)

theorem field?_filter {p : Scalar × Value → Bool} {key : String} (hp : ∀ v, p (.text key, v))
    (es : Fields) : Value.field? key (es.filter p) = Value.field? key es := by
  induction es with
  | nil => rfl
  | cons e es ih =>
    obtain ⟨k, v⟩ := e
    rw [List.filter_cons, Value.field?]
    by_cases hk : k = .text key
    · subst hk
      rw [if_pos (hp v), Value.field?, if_pos rfl, if_pos rfl]
    · rw [if_neg hk]
      split
      · rw [Value.field?, if_neg hk, ih]
      · exact ih

theorem Member.field?_filter {m : Member} {name : String} (h : name ∈ m.names) (es : Fields) :
    Value.field? name (es.filter m.spells) = Value.field? name es :=
  Schema.field?_filter (fun _ => spells_iff.2 ⟨name, h, rfl⟩) es

namespace Member

variable {m : Member} {es fs : Fields} {e : Scalar × Value}

theorem find?_filter (m : Member) (es : Fields) :
    Fields.find? (es.filter m.spells) m.spelling = Fields.find? es m.spelling := by
  have hshort : Value.field? m.spelling.short (es.filter m.spells) =
      Value.field? m.spelling.short es := field?_filter (by simp [names]) es
  have hlong : Value.field? m.spelling.long (es.filter m.spells) =
      Value.field? m.spelling.long es := field?_filter (by simp [names]) es
  rw [Fields.find?, Fields.find?, hshort, hlong]

theorem find?_of_absent (he : es.filter m.spells = []) : Fields.find? es m.spelling = none := by
  rw [← find?_filter, he]
  rfl

theorem spells_of_filter (he : es.filter m.spells = [e]) : m.spells e :=
  (List.mem_filter.1 (he ▸ List.mem_singleton_self e)).2

theorem find?_of_present (halso : m.also = []) (he : es.filter m.spells = [e]) :
    ∃ name, Fields.find? es m.spelling = some (name, e.2) := by
  obtain ⟨name, hname, hkey⟩ := spells_iff.1 (spells_of_filter he)
  obtain ⟨k, v⟩ := e
  obtain rfl : k = .text name := hkey
  rw [← find?_filter, he]
  rw [names, halso] at hname
  by_cases hshort : name = m.spelling.short
  · exact ⟨m.spelling.short, by simp [Fields.find?, Value.field?, hshort]⟩
  · have hlong : name = m.spelling.long := by simpa [hshort] using hname
    rw [hlong] at hshort ⊢
    exact ⟨m.spelling.long, by simp [Fields.find?, Value.field?, hshort]⟩

end Member

/-! ### Decoders and shapes -/

/-- Respelled documents come out alike. -/
def Respects {α : Type} (R : α → α → Prop) (d : Decoder α) (s : Shape) : Prop :=
  ∀ v w, s.IsSingle v → s.Respells v w → (d v).Agrees R (d w)

section

variable {α : Type} {R : α → α → Prop} {d : Decoder α} {m : Member} {es fs : Fields}

theorem respects_leaf (hR : ∀ a, R a a) (d : Decoder α) : Respects R d .leaf := by
  rintro v _ - rfl
  exact .refl hR _

theorem Member.Reads.withDefault (h : m.Reads es fs) (hd : Respects R d m.shape)
    {default : α} (hdefault : R default default) (halso : m.also = [] := by rfl) :
    (Fields.withDefault es m.spelling default d).Agrees R
      (Fields.withDefault fs m.spelling default d) := by
  cases h with
  | absent he hf =>
    rw [Fields.withDefault, Fields.withDefault, find?_of_absent he, find?_of_absent hf]
    exact .ok hdefault
  | present he hf hsingle hval =>
    obtain ⟨name, hname⟩ := find?_of_present halso he
    obtain ⟨name', hname'⟩ := find?_of_present halso hf
    rw [Fields.withDefault, Fields.withDefault, hname, hname']
    exact (hd _ _ hsingle hval).under _ _

theorem Member.Reads.required (h : m.Reads es fs) (hd : Respects R d m.shape)
    (halso : m.also = [] := by rfl) :
    (Fields.required es m.spelling d).Agrees R (Fields.required fs m.spelling d) := by
  cases h with
  | absent he hf =>
    rw [Fields.required, Fields.required, find?_of_absent he, find?_of_absent hf]
    exact .bad rfl
  | present he hf hsingle hval =>
    obtain ⟨name, hname⟩ := find?_of_present halso he
    obtain ⟨name', hname'⟩ := find?_of_present halso hf
    rw [Fields.required, Fields.required, hname, hname']
    exact (hd _ _ hsingle hval).under _ _

theorem Member.Reads.leaf (h : m.Reads es fs) {default : α} (hleaf : m.shape = .leaf := by rfl)
    (halso : m.also = [] := by rfl) :
    (Fields.withDefault es m.spelling default d).Agrees Eq
      (Fields.withDefault fs m.spelling default d) :=
  h.withDefault (hleaf ▸ respects_leaf (fun _ => rfl) d) rfl halso

theorem Member.Reads.leafRequired (h : m.Reads es fs) (hleaf : m.shape = .leaf := by rfl)
    (halso : m.also = [] := by rfl) :
    (Fields.required es m.spelling d).Agrees Eq (Fields.required fs m.spelling d) :=
  h.required (hleaf ▸ respects_leaf (fun _ => rfl) d) halso

theorem Respects.list {s : Shape} (hd : Respects Eq d s) : Respects Eq (Schema.list d) (.list s) := by
  intro v w hsingle hvw
  rcases hvw with rfl | ⟨vs, ws, rfl, rfl, h⟩
  · exact .refl (fun _ => rfl) _
  · have hitems : List.Forall₂ (fun v w => (d v).Agrees Eq (d w)) vs ws := by
      have hall := (List.forall₂_and_left vs ws).2 ⟨hsingle vs rfl, h⟩
      exact hall.imp fun v w hvw => hd v w hvw.1 hvw.2
    exact items_agrees hitems 0

theorem Respects.dict {R : String → α → α → Prop} (hR : ∀ key a, R key a a) {s : String → Shape}
    (hd : ∀ key, Respects (R key) d (s key)) :
    Respects (List.Forall₂ fun p q => p.1 = q.1 ∧ R p.1 p.2 q.2) (Schema.dict d) (.dict s) := by
  intro v w hsingle hvw
  rcases hvw with rfl | ⟨es, fs, rfl, rfl, h⟩
  · refine .refl (fun ps => List.forall₂_same.2 fun p _ => ⟨rfl, hR p.1 p.2⟩) _
  · refine entries_agrees hR ?_
    have hall := (List.forall₂_and_left es fs).2 ⟨fun e he => he, h⟩
    refine hall.imp fun e f hef => ?_
    rcases hef with ⟨he, rfl | ⟨key, hek, hfk, hval⟩⟩
    · exact .inl rfl
    · have hmem : (.text key, e.2) ∈ es := hek ▸ he
      exact .inr ⟨key, hek, hfk, hd key _ _ (hsingle es rfl key e.2 hmem) hval⟩

theorem Respects.dictEq {s : String → Shape} (hd : ∀ key, Respects Eq d (s key)) :
    Respects Eq (Schema.dict d) (.dict s) := by
  intro v w hsingle hvw
  refine (Respects.dict (R := fun _ => Eq) (fun _ _ => rfl) hd v w hsingle hvw).mono ?_
  intro ps qs h
  rw [← List.forall₂_eq_eq_eq]
  exact h.imp fun p q hpq => Prod.ext hpq.1 hpq.2

theorem respects_model {build : Fields → Checked α} (hbuild : ∀ es, d (.map es) = build es)
    {members : List Member} (hR : ∀ a, R a a) (happ : Member.Apart members)
    (h : ∀ es fs, (∀ m ∈ members, m.Reads es fs) → (build es).Agrees R (build fs)) :
    Respects R d (.model members) := by
  intro v w hsingle hvw
  rcases hvw with rfl | ⟨es, fs, rfl, rfl, hrel⟩
  · exact .refl hR _
  · rw [hbuild, hbuild]
    exact h es fs fun m hm => Member.reads_of_respells happ (hsingle es rfl) hrel hm

theorem Respects.nullable {members : List Member} (hd : Respects Eq d (.model members)) :
    Respects Eq (Schema.nullable d) (.model members) := by
  intro v w hsingle hvw
  rcases hvw with rfl | ⟨es, fs, rfl, rfl, hrel⟩
  · exact .refl (fun _ => rfl) _
  · exact (hd _ _ hsingle (.inr ⟨es, fs, rfl, rfl, hrel⟩)).mapEq some

end

end CapsuleKit.Schema

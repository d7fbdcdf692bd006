import CapsuleKit.Capsule.Registry
import Mathlib.Data.Finset.Card
import Mathlib.Data.List.Nodup

/-!
# Registries and their logs

The calls on a registry accept definitions one after the other: each call those in front of its first
bad entry. The list of all of them is the log. A registry is what its log says: `Follows` is the
invariant that every insertion keeps, and `Answers` is what follows from it for all questions that a
registry answers.
-/

namespace CapsuleKit.Registry

/-! ### Logs -/

namespace Entry

/-- The definition of an entry, unless the entry is bad. -/
def definition? (e : Entry) : Option Definition :=
  match e.decode with
  | .ok d => some d
  | .bad _ => none

def problems? (e : Entry) : Option (List Schema.Problem) :=
  match e.decode with
  | .ok _ => none
  | .bad ps => some ps

variable {e : Entry}

theorem definition?_eq_none_iff : e.definition? = none ↔ e.problems? ≠ none := by
  unfold definition? problems?
  cases e.decode <;> simp

end Entry

/-- The definitions that a call accepts: those in front of the first bad entry. -/
def accepted (entries : List Entry) : List Definition :=
  (entries.takeWhile (·.definition?.isSome)).filterMap (·.definition?)

def logOf (calls : List (List Entry)) : List Definition :=
  calls.flatMap accepted

/-- The definition with an id that was accepted last. -/
def latest (log : List Definition) (id : String) : Option Definition :=
  (log.filter (·.id == id)).getLast?

/-- The ids, of definitions that are accepted behind a log, that were there before. -/
def replacements : List Definition → List Definition → List String
  | _, [] => []
  | log, d :: ds =>
    (if d.id ∈ log.map (·.id) then [d.id] else []) ++ replacements (log ++ [d]) ds

/-- The registry that some calls make of an empty one. -/
def afterCalls (calls : List (List Entry)) : Registry :=
  calls.foldl (fun r entries => (r.registerEntries entries).registry) empty

theorem accepted_cons_ok {e : Entry} {d : Definition} (h : e.decode = .ok d)
    (entries : List Entry) : accepted (e :: entries) = d :: accepted entries := by
  have hd : e.definition? = some d := by rw [Entry.definition?, h]
  simp [accepted, hd]

theorem accepted_cons_bad {e : Entry} {ps : List Schema.Problem} (h : e.decode = .bad ps)
    (entries : List Entry) : accepted (e :: entries) = [] := by
  have hd : e.definition? = none := by rw [Entry.definition?, h]
  simp [accepted, hd]

theorem accepted_append {xs : List Entry} (h : ∀ e ∈ xs, e.problems? = none) (ys : List Entry) :
    accepted (xs ++ ys) = accepted xs ++ accepted ys := by
  have hall : ∀ e ∈ xs, e.definition?.isSome = true := by
    intro e he
    rw [Option.isSome_iff_ne_none]
    exact fun hnone => Entry.definition?_eq_none_iff.1 hnone (h e he)
  have hself : (xs ++ []).takeWhile (·.definition?.isSome) = xs ++ [] :=
    List.takeWhile_append_of_pos hall
  rw [List.append_nil] at hself
  rw [accepted, accepted, accepted, List.takeWhile_append_of_pos hall, List.filterMap_append, hself]

theorem latest_concat (log : List Definition) (d : Definition) (id : String) :
    latest (log ++ [d]) id = if d.id = id then some d else latest log id := by
  unfold latest
  by_cases h : d.id = id <;> simp [h]

theorem isSome_latest {log : List Definition} {id : String} :
    (latest log id).isSome = true ↔ ∃ d ∈ log, d.id = id := by
  simp [latest, Option.isSome_iff_ne_none]

theorem id_of_latest {log : List Definition} {id : String} {d : Definition}
    (h : latest log id = some d) : d.id = id := by
  have hmem : d ∈ log.filter (·.id == id) := List.mem_of_getLast? h
  exact beq_iff_eq.1 (List.mem_filter.1 hmem).2

theorem eraseDups_concat (l : List String) (a : String) :
    (l ++ [a]).eraseDups = if a ∈ l then l.eraseDups else l.eraseDups ++ [a] := by
  have hself : [a].eraseDups = [a] := by rw [List.eraseDups_cons]; rfl
  rw [List.eraseDups_append]
  by_cases h : a ∈ l <;> simp [List.removeAll, h, hself]

/-! ### One definition -/

theorem find?_place (d : Definition) (ds : List Definition) (id : String) :
    (place d ds).find? (·.id == id) = if d.id = id then some d else ds.find? (·.id == id) := by
  induction ds with
  | nil => by_cases h : d.id = id <;> simp [place, h]
  | cons e es ih =>
    rw [place]
    split
    case isTrue he => by_cases h : d.id = id <;> simp [h, he]
    case isFalse he =>
      rw [List.find?_cons, List.find?_cons, ih]
      by_cases h : d.id = id
      · have hskip : (e.id == id) = false := by rw [beq_eq_false_iff_ne, ← h]; exact he
        simp only [hskip, h, if_true]
      · simp only [h, if_false]

theorem map_id_place (d : Definition) (ds : List Definition) :
    (place d ds).map (·.id) =
      if d.id ∈ ds.map (·.id) then ds.map (·.id) else ds.map (·.id) ++ [d.id] := by
  induction ds with
  | nil => simp [place]
  | cons e es ih =>
    rw [place]
    split
    case isTrue he => simp [he]
    case isFalse he =>
      rw [List.map_cons, ih]
      simp only [List.map_cons, List.mem_cons, Ne.symm he, false_or]
      split <;> simp

section

variable {r : Registry} {log : List Definition}

theorem lookup_insert (d : Definition) (id : String) :
    (r.insert d).lookup id = if d.id = id then some d else r.lookup id :=
  find?_place d r.definitions id

theorem ids_insert (d : Definition) :
    (r.insert d).ids = if d.id ∈ r.ids then r.ids else r.ids ++ [d.id] :=
  map_id_place d r.definitions

theorem lookup_self (h : r.ids.Nodup) {d : Definition} (hd : d ∈ r.definitions) :
    r.lookup d.id = some d := by
  cases hfound : r.lookup d.id with
  | none => simpa using List.find?_eq_none.1 hfound d hd
  | some e =>
    have hid : e.id = d.id :=
      beq_iff_eq.1 (List.find?_some (p := fun e : Definition => e.id == d.id) hfound)
    rw [List.inj_on_of_nodup_map h (List.mem_of_find?_eq_some hfound) hd hid]

theorem filterMap_lookup_ids (h : r.ids.Nodup) : r.ids.filterMap r.lookup = r.definitions := by
  rw [ids, List.filterMap_map]
  exact (List.filterMap_congr fun d hd => lookup_self h hd).trans List.filterMap_some

/-! ### The invariant -/

/-- A registry has the ids of a log, each once and where it came up first, and under every id the
definition that came last. -/
structure Follows (r : Registry) (log : List Definition) : Prop where
  ids : r.ids = (log.map (·.id)).eraseDups
  nodup : r.ids.Nodup
  lookup : ∀ id, r.lookup id = latest log id

theorem Follows.empty : Registry.empty.Follows [] :=
  ⟨rfl, List.nodup_nil, fun _ => rfl⟩

theorem Follows.mem_ids (h : r.Follows log) {id : String} : id ∈ r.ids ↔ id ∈ log.map (·.id) := by
  rw [h.ids, List.mem_eraseDups]

theorem Follows.contains (h : r.Follows log) {id : String} :
    r.contains id = true ↔ id ∈ log.map (·.id) := by
  rw [Registry.contains, h.lookup, isSome_latest, List.mem_map]

theorem Follows.insert (h : r.Follows log) (d : Definition) : (r.insert d).Follows (log ++ [d]) where
  ids := by
    rw [ids_insert, List.map_append, List.map_singleton, eraseDups_concat, h.ids]
    simp only [List.mem_eraseDups]
  nodup := by
    rw [ids_insert]
    split
    case isTrue => exact h.nodup
    case isFalse hnew => exact List.concat_eq_append ▸ h.nodup.concat hnew
  lookup id := by rw [lookup_insert, latest_concat, h.lookup]

/-- What a registry answers, by the definitions that were accepted. -/
structure Answers (r : Registry) (log : List Definition) : Prop where
  /-- A definition stands under its own id. -/
  stored : ∀ id d, r.lookup id = some d → d.id = id
  /-- The ids, each once, in the order of their first acceptance. -/
  ids : r.ids = (log.map (·.id)).eraseDups
  /-- In the place of each id stands the definition that was accepted last. -/
  definitions : r.definitions = r.ids.filterMap (latest log)
  lookup : ∀ id, r.lookup id = latest log id
  size : r.size = (log.map (·.id)).toFinset.card
  contains : ∀ id, r.contains id = true ↔ ∃ d ∈ log, d.id = id
  template : ∀ id platform,
    r.template id platform = (latest log id).bind (·.template? platform)
  supports : ∀ id platform,
    r.supports id platform = true ↔
      ∃ d, latest log id = some d ∧ ∃ t, d.template? platform = some t
  platformsOf : ∀ id,
    r.platformsOf id = ((latest log id).map (·.platforms.map (·.1))).getD []

theorem Follows.answers (h : r.Follows log) : r.Answers log where
  stored id d hd := id_of_latest (h.lookup id ▸ hd)
  ids := h.ids
  definitions := by
    rw [← filterMap_lookup_ids h.nodup]
    exact List.filterMap_congr fun id _ => h.lookup id
  lookup := h.lookup
  size := by
    have hmem : r.ids.toFinset = (log.map (·.id)).toFinset := by
      ext id
      rw [List.mem_toFinset, List.mem_toFinset, h.mem_ids]
    rw [← hmem, List.toFinset_card_of_nodup h.nodup, Registry.ids, List.length_map, size]
  contains id := by rw [h.contains, List.mem_map]
  template id platform := by rw [Registry.template, h.lookup]
  supports id platform := by
    rw [Registry.supports, Registry.template, h.lookup, Option.isSome_iff_exists]
    simp only [Option.bind_eq_some_iff]
    exact ⟨fun ⟨t, d, hd, ht⟩ => ⟨d, hd, t, ht⟩, fun ⟨d, hd, t, ht⟩ => ⟨t, d, hd, ht⟩⟩
  platformsOf id := by
    rw [Registry.platformsOf, h.lookup]
    cases latest log id <;> rfl

end

/-! ### Calls -/

theorem registry_registerAll (o : Outcome) (entries : List Entry) :
    (registerAll o entries).registry = (accepted entries).foldl insert o.registry := by
  induction entries generalizing o with
  | nil => rfl
  | cons e entries ih =>
    rw [registerAll]
    cases he : e.decode with
    | ok d =>
      rw [accepted_cons_ok he, List.foldl_cons]
      exact ih (o.add d)
    | bad ps => rw [accepted_cons_bad he]; rfl

theorem problems_registerAll {o : Outcome} (ho : o.problems = none) (entries : List Entry) :
    (registerAll o entries).problems = entries.findSome? (·.problems?) := by
  induction entries generalizing o with
  | nil => exact ho
  | cons e entries ih =>
    rw [registerAll, List.findSome?_cons, Entry.problems?]
    cases he : e.decode with
    | ok d => exact ih ho
    | bad ps => rfl

theorem replaced_registerAll {o : Outcome} {log : List Definition} (h : o.registry.Follows log)
    (entries : List Entry) :
    (registerAll o entries).replaced = o.replaced ++ replacements log (accepted entries) := by
  -- the log grows with every entry, and with it the registry that is asked for the next id
  induction entries generalizing o log with
  | nil => exact (List.append_nil _).symm
  | cons e entries ih =>
    rw [registerAll]
    cases he : e.decode with
    | bad ps =>
      rw [accepted_cons_bad he]
      exact (List.append_nil _).symm
    | ok d =>
      have hadd : (o.add d).replaced =
          o.replaced ++ (if d.id ∈ log.map (·.id) then [d.id] else []) := by
        rw [Outcome.add]
        simp only [h.contains]
        split <;> simp
      rw [accepted_cons_ok he, replacements, ← List.append_assoc, ← hadd]
      exact ih (h.insert d)

theorem follows_foldl_insert (log : List Definition) : (log.foldl insert empty).Follows log := by
  induction log using List.reverseRecOn with
  | nil => exact .empty
  | append_singleton log d ih =>
    rw [List.foldl_concat]
    exact ih.insert d

theorem afterCalls_eq (calls : List (List Entry)) :
    afterCalls calls = (logOf calls).foldl insert empty := by
  induction calls using List.reverseRecOn with
  | nil => rfl
  | append_singleton calls entries ih =>
    rw [afterCalls, List.foldl_concat, ← afterCalls, registerEntries, registry_registerAll, ih, logOf,
      logOf, List.flatMap_append, List.flatMap_singleton, List.foldl_append]

theorem follows_afterCalls (calls : List (List Entry)) : (afterCalls calls).Follows (logOf calls) := by
  rw [afterCalls_eq]
  exact follows_foldl_insert _

/-- However a registry came about, it answers by the definitions that were accepted. A further call
accepts what is in front of its first bad entry, fails with the problems of that entry if there is
one, and notes once each definition whose id was there before. Entries without a bad one may be
registered by a call of their own. -/
theorem registrations_follow_log (calls : List (List Entry)) :
    (afterCalls calls).Answers (logOf calls) ∧
      (∀ entries,
        let o := (afterCalls calls).registerEntries entries
        o.registry.Answers (logOf calls ++ accepted entries) ∧
          o.problems = entries.findSome? (·.problems?) ∧
          o.replaced.map replacedMessage =
            (replacements (logOf calls) (accepted entries)).map replacedMessage) ∧
      ∀ xs ys, (∀ e ∈ xs, e.problems? = none) →
        afterCalls (calls ++ [xs, ys]) = afterCalls (calls ++ [xs ++ ys]) := by
  have hfollows := follows_afterCalls calls
  refine ⟨hfollows.answers, fun entries => ⟨?_, problems_registerAll rfl entries, ?_⟩,
    fun xs ys hxs => ?_⟩
  · have hnext := (follows_afterCalls (calls ++ [entries])).answers
    rwa [afterCalls, List.foldl_concat, ← afterCalls, logOf, List.flatMap_append,
      List.flatMap_singleton, ← logOf] at hnext
  · rw [registerEntries, replaced_registerAll hfollows, List.nil_append]
  · rw [afterCalls_eq, afterCalls_eq, logOf, logOf, List.flatMap_append, List.flatMap_append,
      List.flatMap_cons, List.flatMap_singleton, List.flatMap_singleton, accepted_append hxs]

/-- A call that a bad entry stops behind its first definition, and one that puts another definition in
the place of it. -/
theorem registrations_follow_log_replaced :
    let first : Definition := { id := "card", name := "Card" }
    let second : Definition := { id := "card", name := "Panel" }
    let other : Definition := { id := "list", name := "List" }
    let calls : List (List Entry) := [[.made first, .raw (.text "card"), .made other]]
    let xs : List Entry := [.made other, .made second]
    let ys : List Entry := [.made first]
    (∀ e ∈ xs, e.problems? = none) ∧
      afterCalls (calls ++ [xs, ys]) = afterCalls (calls ++ [xs ++ ys]) ∧
      (afterCalls calls).ids = ["card"] ∧
      let o := (afterCalls calls).registerEntries xs
      o.registry.ids = ["card", "list"] ∧ o.registry.lookup "card" = some second ∧
        o.replaced.map replacedMessage = ["Replacing capsule definition 'card'"] := by
  intro first second other calls xs ys
  have hxs : ∀ e ∈ xs, e.problems? = none :=
    List.forall_mem_cons.2 ⟨rfl, List.forall_mem_singleton.2 rfl⟩
  obtain ⟨hbefore, hcall, hjoin⟩ := registrations_follow_log calls
  obtain ⟨hafter, -, hlog⟩ := hcall xs
  exact ⟨hxs, hjoin xs ys hxs, hbefore.ids.trans rfl, hafter.ids.trans rfl,
    (hafter.lookup _).trans rfl, hlog.trans rfl⟩

end CapsuleKit.Registry

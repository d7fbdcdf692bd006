import CapsuleKit.Composition.Walk

/-!
# The instances of a forest

`Instance.forest` lists instances without their depths. `forest_cons` is its recursion: an instance,
what is nested in it as children, what stands in its slots, and then the rest of the list.
-/

namespace CapsuleKit.Instance

mutual

theorem map_fst_walk (d e : Nat) : ∀ i : Instance, (walk d i).map (·.1) = (walk e i).map (·.1)
  | ⟨_, _, _, _, children, slots⟩ => by
    simp only [walk, List.map_cons, List.map_append]
    rw [map_fst_walkList (d + 1) (e + 1) children, map_fst_walkSlots (d + 1) (e + 1) slots]

theorem map_fst_walkList (d e : Nat) :
    ∀ is : List Instance, (walkList d is).map (·.1) = (walkList e is).map (·.1)
  | [] => rfl
  | i :: is => by
    simp only [walkList, List.map_append]
    rw [map_fst_walk d e i, map_fst_walkList d e is]

theorem map_fst_walkSlots (d e : Nat) :
    ∀ ss : List (String × List Instance), (walkSlots d ss).map (·.1) = (walkSlots e ss).map (·.1)
  | [] => rfl
  | (_, is) :: ss => by
    simp only [walkSlots, List.map_append]
    rw [map_fst_walkList d e is, map_fst_walkSlots d e ss]

end

/-- The instances that stand in slots, slot by slot. -/
def slotForest (ss : List (String × List Instance)) : List Instance :=
  ss.flatMap fun s => forest s.2

@[simp] theorem forest_nil : forest [] = [] := rfl

@[simp] theorem slotForest_nil : slotForest [] = [] := rfl

@[simp] theorem slotForest_cons (name : String) (is : List Instance)
    (ss : List (String × List Instance)) :
    slotForest ((name, is) :: ss) = forest is ++ slotForest ss :=
  List.flatMap_cons

theorem map_fst_walkSlots_eq (d : Nat) (ss : List (String × List Instance)) :
    (walkSlots d ss).map (·.1) = slotForest ss := by
  induction ss with
  | nil => rfl
  | cons s ss ih =>
    obtain ⟨name, is⟩ := s
    simp only [walkSlots, List.map_append, slotForest_cons, ih]
    rw [map_fst_walkList d 0 is, forest]

theorem forest_cons (i : Instance) (is : List Instance) :
    forest (i :: is) = i :: (forest i.children ++ slotForest i.slots) ++ forest is := by
  obtain ⟨id, capsuleId, name, props, children, slots⟩ := i
  simp only [forest, walkList, walk, List.map_append, List.map_cons]
  rw [map_fst_walkList 1 0 children, map_fst_walkSlots_eq]

theorem forest_append (is js : List Instance) : forest (is ++ js) = forest is ++ forest js := by
  induction is with
  | nil => rfl
  | cons i is ih => simp only [List.cons_append, forest_cons, ih, List.append_assoc]

end CapsuleKit.Instance

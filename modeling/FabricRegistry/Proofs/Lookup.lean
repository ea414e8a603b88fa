import Mathlib.Data.List.Basic

/-!
What a name leads to in a list of pairs. The first pair of a name counts; where no name occurs
twice, the order of the pairs does not matter.
-/

namespace FabricRegistry

variable {α β : Type} {pairs pairs' : List (String × α)} {name : String} {v : α}

theorem lookup_cons_eq (name other : String) (v : α) (pairs : List (String × α)) :
    ((other, v) :: pairs).lookup name = if name = other then some v else pairs.lookup name := by
  rw [List.lookup_cons]
  by_cases h : name = other
  · simp [h]
  · simp [h, beq_false_of_ne h]

theorem lookup_map (f : α → β) (pairs : List (String × α)) (name : String) :
    (pairs.map fun pair => (pair.1, f pair.2)).lookup name = (pairs.lookup name).map f := by
  induction pairs with
  | nil => rfl
  | cons pair pairs ih =>
    rw [List.map_cons, List.lookup_cons, List.lookup_cons, ih]
    cases name == pair.1 <;> rfl

theorem lookup_filter (p : String → Bool) (pairs : List (String × α)) (name : String) :
    (pairs.filter fun (name, _) => p name).lookup name =
      if p name then pairs.lookup name else none := by
  induction pairs with
  | nil => simp
  | cons pair pairs ih =>
    obtain ⟨other, v⟩ := pair
    by_cases hname : name = other
    · subst hname
      cases hp : p name with
      | false => simpa [hp] using ih
      | true => simp [hp]
    · have hne : (name == other) = false := by simpa using hname
      cases hp : p other <;> simp only [List.filter_cons, hp, List.lookup_cons, hne, ih, if_true,
        Bool.false_eq_true, if_false]

/-! ### Names that occur once -/

/-- Where no name occurs twice, a name leads to the pair that has it. -/
theorem lookup_eq_some_iff_mem (h : (pairs.map Prod.fst).Nodup) :
    pairs.lookup name = some v ↔ (name, v) ∈ pairs := by
  induction pairs with
  | nil => simp
  | cons pair pairs ih =>
    obtain ⟨other, w⟩ := pair
    obtain ⟨hother, hrest⟩ := List.nodup_cons.mp h
    rw [lookup_cons_eq, List.mem_cons, Prod.mk.injEq]
    by_cases hname : name = other
    · subst hname
      have hnot : (name, v) ∉ pairs := fun hmem =>
        hother (List.mem_map.mpr ⟨(name, v), hmem, rfl⟩)
      simp [hnot, eq_comm]
    · simp [hname, ih hrest]

theorem lookup_eq_none_of_not_mem (h : name ∉ pairs.map Prod.fst) : pairs.lookup name = none := by
  refine List.lookup_eq_none_iff.mpr fun pair hpair => ?_
  exact bne_iff_ne.mpr fun heq => h (List.mem_map.mpr ⟨pair, hpair, heq.symm⟩)

/-- The order of pairs with different names does not matter for who looks a name up. -/
theorem lookup_eq_of_perm (hperm : pairs.Perm pairs') (h : (pairs.map Prod.fst).Nodup)
    (name : String) : pairs.lookup name = pairs'.lookup name := by
  have h' : (pairs'.map Prod.fst).Nodup := (hperm.map Prod.fst).nodup_iff.mp h
  refine Option.ext fun v => ?_
  rw [lookup_eq_some_iff_mem h, lookup_eq_some_iff_mem h', hperm.mem_iff]

end FabricRegistry

import FabricRegistry.Proofs.Json.Reading

/-!
Records as they are written. The members of a record that has its fields in order, each once or not
at all, are found again in the tree of its text.
-/

namespace FabricRegistry.Json

variable {α : Type} {names : List String} {members : List (String × Value)}

theorem spellNames?_memberTrees (members : List (String × Value)) :
    spellNames? (Value.memberTrees members) = some (members.map fun m => (m.1, m.2.tree)) := by
  induction members with
  | nil => rfl
  | cons m members ih => simp [Value.memberTrees, spellNames?, ih]

theorem distinctNames_of_nodup {fields : Fields α} (h : (fields.map Prod.fst).Nodup) :
    distinctNames fields = true := by
  induction fields with
  | nil => rfl
  | cons field fields ih =>
    obtain ⟨hfield, hrest⟩ := List.nodup_cons.mp h
    have hany : (fields.any fun other => other.1 == field.1) = false := by
      simpa using fun name a hmem heq => hfield (List.mem_map.mpr ⟨(name, a), hmem, heq⟩)
    simp [distinctNames, hany, ih hrest]

theorem distinctNames_iff {fields : Fields α} :
    distinctNames fields = true ↔ (fields.map Prod.fst).Nodup := by
  refine ⟨fun h => ?_, distinctNames_of_nodup⟩
  induction fields with
  | nil => exact List.nodup_nil
  | cons field fields ih =>
    simp only [distinctNames, Bool.and_eq_true, Bool.not_eq_true', List.any_eq_false,
      beq_iff_eq] at h
    refine List.nodup_cons.mpr ⟨fun hmem => ?_, ih h.2⟩
    obtain ⟨other, hother, heq⟩ := List.mem_map.mp hmem
    exact h.1 other hother heq

/-- A record that is written in the order of its fields has these fields. -/
theorem Tree.fields?_tree (hnames : names.Nodup) (h : (members.map Prod.fst).Sublist names) :
    (Value.object members).tree.fields? names = some (members.map fun m => (m.1, m.2.tree)) := by
  have hkept : (members.map fun m => (m.1, m.2.tree)).filter
      (fun field => names.contains field.1) = members.map fun m => (m.1, m.2.tree) := by
    refine List.filter_eq_self.mpr fun field hfield => ?_
    obtain ⟨m, hm, rfl⟩ := List.mem_map.mp hfield
    simpa using h.subset (List.mem_map_of_mem hm)
  have hdistinct : distinctNames (members.map fun m => (m.1, m.2.tree)) = true := by
    refine distinctNames_of_nodup ?_
    rw [List.map_map]
    exact hnames.sublist h
  rw [Value.tree, fields?, spellNames?_memberTrees, Option.bind_eq_bind, Option.bind_some, hkept,
    if_pos hdistinct]

theorem Tree.natural?_lt {t : Tree} {bound n : ℕ} (h : t.natural? bound = some n) : n < bound := by
  unfold natural? Numeral.below? at h
  split at h
  · split at h
    · split at h
      · next hlt =>
        cases h
        exact hlt
      · cases h
    · cases h
  · cases h

end FabricRegistry.Json

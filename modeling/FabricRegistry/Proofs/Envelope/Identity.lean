import FabricRegistry.EventId
import FabricRegistry.Proofs.Json.Reading

/-!
The canonical text of an identifier denotes it.
-/

namespace FabricRegistry.EventId

variable {ds : List Char}

theorem length_grouped (h : ds.length = 32) : (grouped ds).length = 36 := by
  simp [grouped, h]

theorem exists_eq_append (ds : List Char) (n : ℕ) (h : n ≤ ds.length) :
    ∃ a b, ds = a ++ b ∧ a.length = n :=
  ⟨ds.take n, ds.drop n, (List.take_append_drop n ds).symm, List.length_take_of_le h⟩

/-- Grouped digits are found again. -/
theorem ungrouped?_grouped (h : ds.length = 32) : ungrouped? (grouped ds) = some ds := by
  obtain ⟨a, ds, rfl, ha⟩ := exists_eq_append ds 8 (by omega)
  rw [List.length_append] at h
  obtain ⟨b, ds, rfl, hb⟩ := exists_eq_append ds 4 (by omega)
  rw [List.length_append] at h
  obtain ⟨c, ds, rfl, hc⟩ := exists_eq_append ds 4 (by omega)
  rw [List.length_append] at h
  obtain ⟨d, e, rfl, hd⟩ := exists_eq_append ds 4 (by omega)
  have hgroups : grouped (a ++ (b ++ (c ++ (d ++ e)))) =
      a ++ '-' :: (b ++ '-' :: (c ++ '-' :: (d ++ '-' :: e))) := by
    simp (disch := omega) [grouped, List.drop_append, List.drop_of_length_le, ha, hb, hc]
  simp (disch := omega) [hgroups, ungrouped?, List.getElem?_append, List.drop_append,
    List.drop_of_length_le, ha, hb, hc, hd]
  exact ⟨rfl, rfl, rfl, rfl⟩

theorem nibble?_hexDigit (n : Fin 16) : nibble? (Json.hexDigit n.val) = some n := by
  simp [nibble?, Json.Reader.hexValue?_hexDigit n.isLt]

theorem mapM_nibble? (nibbles : List (Fin 16)) :
    (nibbles.map fun n => Json.hexDigit n.val).mapM nibble? = some nibbles := by
  induction nibbles with
  | nil => rfl
  | cons n nibbles ih => simp [List.mapM_cons, nibble?_hexDigit, ih]

/-- **An identifier is read from its canonical text.** -/
theorem parse?_text (id : EventId) : parse? id.text = some id := by
  have hlength : (id.nibbles.map fun n => Json.hexDigit n.val).length = 32 := by
    simp [id.length_eq]
  have hdigits : digits? (grouped (id.nibbles.map fun n => Json.hexDigit n.val)) =
      some (id.nibbles.map fun n => Json.hexDigit n.val) := by
    rw [digits?, length_grouped hlength, if_neg (by decide), if_pos rfl,
      ungrouped?_grouped hlength]
  rw [parse?, text, String.toList_ofList, hdigits, Option.bind_eq_bind, Option.bind_some,
    mapM_nibble?, Option.bind_eq_bind, Option.bind_some, ofNibbles?, dif_pos id.length_eq]

end FabricRegistry.EventId

import FabricRegistry.Proofs.Traffic.Complete

/-!
The trail rebuilds the rows. When nothing is in flight, the trail of a code tells the facts of the
code in the order in which they were decided, and these replay to its row.
-/

namespace FabricRegistry.Traffic

/-- **The trail rebuilds the rows.** Let commands without a deadline be given to empty stores, in
any schedule, and let all of them have their results. As long as versions fit 64 bits, the trail of
a code is read back as facts that fit each other in the order of the trail, and they leave the row
that the table has for the code, or nothing where it has none. -/
theorem trail_rebuilds (channel : Channel) (σ : List Action) (h : (run channel σ).Complete)
    (hv : ∀ code row, (run channel σ).stores.table.find? code = some row →
      row.version < 2 ^ 64 - 1) (code : Code) :
    ∃ facts, ((run channel σ).stores.ledger.eventsOf code.text).mapM Envelope.fact? = some facts ∧
      replay facts = some ((run channel σ).stores.table.find? code) := by
  obtain ⟨posts, line, hcourse⟩ := exists_course channel σ
  have hversion : ∀ d ∈ line, ∀ f, d.verdict = .ok f → f.version < 2 ^ 64 := by
    intro d hd f hf
    obtain ⟨h1, hle⟩ := hcourse.inLine.version_mem hd hf
    rw [← hcourse.table_eq] at hle
    obtain ⟨row, hrow, hle⟩ := Catalogue.Table.exists_row h1 hle
    have := hv f.code row hrow
    omega
  refine ⟨factsOf line code, ?_, ?_⟩
  · rw [hcourse.eventsOf_eq h]
    exact hcourse.inLine.mapM_fact? code hversion
  · rw [hcourse.table_eq]
    exact hcourse.inLine.replay_factsOf code

/-- The race leaves a deleted row, and its trail tells of the creation and of the deletion. -/
theorem trail_rebuilds_race : ∃ facts : List Fact,
    ((run .silent race).stores.ledger.eventsOf linen.text).mapM Envelope.fact? = some facts ∧
      replay facts = some (some (.restore linen ⟨"Linen", "m", "NEW"⟩ .deleted 2)) := by
  have hv : ∀ code row, (run .silent race).stores.table.find? code = some row →
      row.version < 2 ^ 64 - 1 := by
    intro code row hrow
    have hrows : ∀ row ∈ (run .silent race).stores.table.rows, row.version < 2 ^ 64 - 1 := by
      decide +kernel
    exact hrows row (List.mem_of_find?_eq_some hrow)
  have hrow : (run .silent race).stores.table.find? linen =
      some (.restore linen ⟨"Linen", "m", "NEW"⟩ .deleted 2) := by decide +kernel
  exact hrow ▸ trail_rebuilds .silent race complete_race hv linen

end FabricRegistry.Traffic

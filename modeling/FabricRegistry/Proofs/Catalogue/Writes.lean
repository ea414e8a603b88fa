import FabricRegistry.Proofs.Catalogue.Keyed
import Mathlib.Data.List.Induction

/-!
The table in memory under any writes, also such as no command would make: fabrics of any version and
status, with facts pending, or without a name. `Puts` says which row a write puts in, and a write
that puts in none fails and changes nothing. A row is replaced only by one that is a version ahead
of it, so whoever writes a version of a fabric has it alone. Main statement: `compare_and_set`.
-/

namespace FabricRegistry.Catalogue

/-- a request that writes -/
inductive Write where
  | save (f : Fabric)
  | update (f : Fabric)
  | delete (f : Fabric)

/-- the code whose row is to be written -/
def Write.code : Write → Code
  | save f => f.code
  | update f => f.code
  | delete f => f.code

namespace Table

variable {t : Table} {w : Write} {code : Code} {row row' f : Fabric} {e : Error}

/-- the reply to a write, without the fabric that `save` gives back, and the table after it -/
def write (t : Table) : Write → Except Error Unit × Table
  | .save f => ((t.save f).1.map fun _ => (), (t.save f).2)
  | .update f => t.update f
  | .delete f => t.delete f

/-! ### Rows put in -/

/-- A write puts in a row. A new code gets the fabric as it is. A deleted row comes back a version
later, with the details of the fabric, where these have a name. An active row that is a version
behind the fabric is replaced, a deletion keeping its details. -/
inductive Puts (t : Table) : Write → Fabric → Prop where
  | inserted {f : Fabric} (h : t.find? f.code = none) : Puts t (.save f) f.settled
  | revived {f row : Fabric} (h : t.find? f.code = some row) (hs : row.status = .deleted)
      (hd : f.details.validate = .ok ()) :
      Puts t (.save f) (.restore f.code f.details .active (row.version + 1))
  | updated {f row : Fabric} (h : t.find? f.code = some row) (ha : row.status = .active)
      (hv : f.version = row.version + 1) (h1 : 1 ≤ row.version) :
      Puts t (.update f) (.restore f.code f.details .active f.version)
  | deleted {f row : Fabric} (h : t.find? f.code = some row) (ha : row.status = .active)
      (hv : f.version = row.version + 1) (h1 : 1 ≤ row.version) :
      Puts t (.delete f) (.restore f.code row.details .deleted f.version)

theorem settled_advance_reactivated (h : row.code = code) (d : Details) :
    (row.advance (.reactivated d)).settled = .restore code d .active (row.version + 1) := by
  subst h
  rfl

theorem write_of_puts (h : Puts t w row) : t.write w = (.ok (), t.put row) := by
  cases h with
  | inserted h => simp [write, save_of_none h, Except.map]
  | @revived f row h hs hd =>
    have hsettled := settled_advance_reactivated (code_of_find? h) f.details
    simp [write, save, h, Fabric.isActive, hs, Fabric.reactivate_of_deleted hs hd, hsettled,
      Except.map]
  | updated h ha hv h1 => simp [write, update, writable_eq_ok_iff.mpr ⟨h, ha, hv, h1⟩]
  | deleted h ha hv h1 => simp [write, delete, writable_eq_ok_iff.mpr ⟨h, ha, hv, h1⟩]

/-- A write puts in a row, or fails and changes nothing. -/
theorem write_cases (t : Table) (w : Write) :
    (∃ row, Puts t w row) ∨ ∃ e, t.write w = (.error e, t) := by
  cases w with
  | save f =>
    cases h : t.find? f.code with
    | none => exact Or.inl ⟨_, .inserted h⟩
    | some row =>
      cases hs : row.status with
      | active =>
        exact Or.inr ⟨.duplicateCode f.code, by simp [write, save_of_active h hs, Except.map]⟩
      | deleted =>
        cases hr : row.reactivate f.details row.version with
        | ok g => exact Or.inl ⟨_, .revived h hs (Fabric.reactivate_eq_ok_iff.mp hr).2.1⟩
        | error e =>
          exact Or.inr ⟨.domain e, by simp [write, save, h, Fabric.isActive, hs, hr, Except.map]⟩
  | update f =>
    cases hw : t.writable f with
    | ok row =>
      obtain ⟨h, ha, hv, h1⟩ := writable_eq_ok_iff.mp hw
      exact Or.inl ⟨_, .updated h ha hv h1⟩
    | error e => exact Or.inr ⟨e, by simp [write, update, hw]⟩
  | delete f =>
    cases hw : t.writable f with
    | ok row =>
      obtain ⟨h, ha, hv, h1⟩ := writable_eq_ok_iff.mp hw
      exact Or.inl ⟨_, .deleted h ha hv h1⟩
    | error e => exact Or.inr ⟨e, by simp [write, delete, hw]⟩

theorem write_eq_ok_iff : (t.write w).1 = .ok () ↔ ∃ row, Puts t w row := by
  constructor
  · intro h
    rcases write_cases t w with hputs | ⟨e, he⟩
    · exact hputs
    · rw [he] at h
      cases h
  · rintro ⟨row, hputs⟩
    rw [write_of_puts hputs]

theorem write_of_error (h : (t.write w).1 = .error e) : (t.write w).2 = t := by
  rcases write_cases t w with ⟨row, hputs⟩ | ⟨e', he⟩
  · rw [write_of_puts hputs] at h
    cases h
  · rw [he]

theorem Puts.code_eq (h : Puts t w row) : row.code = w.code := by
  cases h <;> rfl

theorem Puts.pending_eq_nil (h : Puts t w row) : row.pending = [] := by
  cases h <;> rfl

/-- A row is put in for a new code, or a version ahead of the row that it replaces. -/
theorem Puts.version_cases (h : Puts t w row) :
    (∃ f, w = .save f ∧ t.find? f.code = none ∧ row = f.settled) ∨
      ∃ old, t.find? w.code = some old ∧ row.version = old.version + 1 := by
  cases h with
  | inserted h => exact Or.inl ⟨_, rfl, h, rfl⟩
  | revived h => exact Or.inr ⟨_, h, rfl⟩
  | updated h ha hv => exact Or.inr ⟨_, h, hv⟩
  | deleted h ha hv => exact Or.inr ⟨_, h, hv⟩

theorem find?_put_code (h : Puts t w row) : (t.put row).find? w.code = some row :=
  h.code_eq ▸ find?_put_self t row

theorem versionOf_le_write (t : Table) (w : Write) (code : Code) :
    t.versionOf code ≤ (t.write w).2.versionOf code := by
  rcases write_cases t w with ⟨row, hputs⟩ | ⟨e, he⟩
  · rw [write_of_puts hputs]
    change t.versionOf code ≤ (t.put row).versionOf code
    by_cases hc : code = w.code
    · subst hc
      rw [versionOf_of_find? (find?_put_code hputs)]
      rcases hputs.version_cases with ⟨f, rfl, hnone, rfl⟩ | ⟨old, hold, hv⟩
      · have hnone : t.find? (Write.save f).code = none := hnone
        simp [versionOf, hnone]
      · rw [versionOf_of_find? hold, hv]
        exact Nat.le_succ _
    · have hne : row.code ≠ code := hputs.code_eq ▸ Ne.symm hc
      simp only [versionOf, find?_put_of_ne hne, Nat.le_refl]
  · simp only [he, Nat.le_refl]

theorem codes_prefix_write (t : Table) (w : Write) :
    t.rows.map Fabric.code <+: (t.write w).2.rows.map Fabric.code := by
  rcases write_cases t w with ⟨row, hputs⟩ | ⟨e, he⟩
  · rw [write_of_puts hputs]
    change _ <+: (putRow row t.rows).map Fabric.code
    rw [codes_putRow]
    split
    · exact List.prefix_rfl
    · exact List.prefix_append _ _
  · simp only [he, List.prefix_rfl]

theorem mem_put {r : Fabric} (h : r ∈ (t.put row).rows) : r = row ∨ r ∈ t.rows := by
  obtain ⟨rows⟩ := t
  change r ∈ putRow row rows at h
  induction rows with
  | nil => exact Or.inl (List.mem_singleton.mp h)
  | cons first rest ih =>
    unfold putRow at h
    split at h
    · exact (List.mem_cons.mp h).imp_right (List.mem_cons_of_mem first)
    · rcases List.mem_cons.mp h with rfl | h
      · exact Or.inr List.mem_cons_self
      · exact (ih h).imp_right (List.mem_cons_of_mem first)

/-! ### Histories -/

/-- Every row has a code of its own, and nothing pending. -/
structure Kept (t : Table) : Prop where
  codes_nodup : (t.rows.map Fabric.code).Nodup
  pending_eq_nil : ∀ row ∈ t.rows, row.pending = []

theorem kept_empty : Kept empty := ⟨List.nodup_nil, fun _ h => absurd h List.not_mem_nil⟩

theorem Kept.write (ht : t.Kept) (w : Write) : (t.write w).2.Kept := by
  rcases write_cases t w with ⟨row, hputs⟩ | ⟨e, he⟩
  · rw [write_of_puts hputs]
    refine ⟨codes_nodup_put ht.codes_nodup row, fun r hr => ?_⟩
    rcases mem_put hr with rfl | hr
    · exact hputs.pending_eq_nil
    · exact ht.pending_eq_nil r hr
  · rwa [he]

/-- the table after writes to an empty one -/
def ofWrites (past : List Write) : Table := past.foldl (fun t w => (t.write w).2) empty

theorem ofWrites_append_singleton (past : List Write) (w : Write) :
    ofWrites (past ++ [w]) = ((ofWrites past).write w).2 := by
  simp [ofWrites]

theorem kept_ofWrites (past : List Write) : (ofWrites past).Kept := by
  induction past using List.reverseRecOn with
  | nil => exact kept_empty
  | append_singleton past w ih =>
    rw [ofWrites_append_singleton]
    exact ih.write w

theorem codes_prefix_ofWrites (past later : List Write) :
    (ofWrites past).rows.map Fabric.code <+: (ofWrites (past ++ later)).rows.map Fabric.code := by
  induction later using List.reverseRecOn with
  | nil => simp
  | append_singleton later w ih =>
    rw [← List.append_assoc, ofWrites_append_singleton]
    exact ih.trans (codes_prefix_write _ w)

theorem versionOf_le_ofWrites (past later : List Write) (code : Code) :
    (ofWrites past).versionOf code ≤ (ofWrites (past ++ later)).versionOf code := by
  induction later using List.reverseRecOn with
  | nil => simp
  | append_singleton later w ih =>
    rw [← List.append_assoc, ofWrites_append_singleton]
    exact Nat.le_trans ih (versionOf_le_write _ w code)

/-! ### The law -/

/-- A write that succeeds changes the row of its own code only. It is the first of its code, or it
takes the row one version on, and a conditional write leads to the version that it names. -/
structure Raises (t : Table) (w : Write) (t' : Table) : Prop where
  others : ∀ code, code ≠ w.code → t'.find? code = t.find? code
  own : (∃ f, w = .save f ∧ t.find? f.code = none ∧ t'.find? f.code = some f.settled) ∨
    ∃ row row', t.find? w.code = some row ∧ t'.find? w.code = some row' ∧
      row'.version = row.version + 1
  named : ∀ f, w = .update f ∨ w = .delete f → t'.versionOf f.code = f.version

theorem Puts.raises (h : Puts t w row) : Raises t w (t.put row) where
  others code hc := find?_put_of_ne (h.code_eq ▸ Ne.symm hc)
  own := by
    rcases h.version_cases with ⟨f, rfl, hnone, rfl⟩ | ⟨old, hold, hv⟩
    · exact Or.inl ⟨f, rfl, hnone, find?_put_code h⟩
    · exact Or.inr ⟨old, row, hold, find?_put_code h, hv⟩
  named f hw := by
    have hfind := find?_put_code h
    have hv : row.version = f.version := by rcases hw with rfl | rfl <;> cases h <;> rfl
    rcases hw with rfl | rfl <;> exact (versionOf_of_find? hfind).trans hv

/-- A deleted row changes only by a `save` of its code, which brings it back. -/
theorem revived_of_ne (ht : t.Kept) (h : t.find? code = some row) (hs : row.status = .deleted)
    (hne : (t.write w).2.find? code ≠ some row) :
    ∃ f, w = .save f ∧ f.code = code ∧
      t.save f = (.ok (.changed code f.details .active (row.version + 1) (.reactivated f.details)),
        (t.write w).2) ∧
      (t.write w).2.find? code = some (.restore code f.details .active (row.version + 1)) := by
  rcases write_cases t w with ⟨row', hputs⟩ | ⟨e, he⟩
  · rw [write_of_puts hputs] at hne ⊢
    have hcode : code = w.code := by
      by_contra hc
      exact hne (hputs.raises.others code hc ▸ h)
    subst hcode
    have hpending := ht.pending_eq_nil row (mem_of_find? h)
    cases hputs with
    | inserted hnone => exact absurd (hnone.symm.trans h) nofun
    | @revived f old hold _ hd =>
      obtain rfl : old = row := Option.some.inj (hold.symm.trans h)
      exact ⟨f, rfl, rfl, save_of_deleted h hs hpending hd rfl, find?_put_self t _⟩
    | updated hold ha =>
      obtain rfl := Option.some.inj (hold.symm.trans h)
      exact absurd (ha.symm.trans hs) nofun
    | deleted hold ha =>
      obtain rfl := Option.some.inj (hold.symm.trans h)
      exact absurd (ha.symm.trans hs) nofun
  · rw [he] at hne
    exact absurd h hne

/-- A write that succeeds leads to a later version than every write of its code before it. -/
theorem versionOf_lt_of_writes {past later : List Write} {w w' : Write}
    (h : ((ofWrites past).write w).1 = .ok ())
    (h' : ((ofWrites (past ++ w :: later)).write w').1 = .ok ()) (hc : w'.code = w.code) :
    (ofWrites (past ++ [w])).versionOf w.code <
      (ofWrites (past ++ w :: later ++ [w'])).versionOf w.code := by
  obtain ⟨row, hputs⟩ := write_eq_ok_iff.mp h
  obtain ⟨row', hputs'⟩ := write_eq_ok_iff.mp h'
  have hfirst : (ofWrites (past ++ [w])).find? w.code = some row := by
    rw [ofWrites_append_singleton, write_of_puts hputs]
    exact find?_put_code hputs
  have hlater : past ++ w :: later = past ++ [w] ++ later := by simp
  have hle := versionOf_le_ofWrites (past ++ [w]) later w.code
  -- the code is still there, so the later write replaces a row
  have hmem : w.code ∈ (ofWrites (past ++ w :: later)).rows.map Fabric.code := by
    rw [hlater]
    refine (codes_prefix_ofWrites (past ++ [w]) later).subset ?_
    rw [← code_of_find? hfirst]
    exact List.mem_map_of_mem (mem_of_find? hfirst)
  rw [ofWrites_append_singleton (past ++ w :: later) w', write_of_puts hputs']
  rcases hputs'.version_cases with ⟨f, rfl, hnone, -⟩ | ⟨old, hold, hv⟩
  · have hcode : f.code = w.code := hc
    exact absurd (hcode ▸ hmem) (find?_eq_none_iff.mp hnone)
  · rw [← hc] at hle ⊢
    rw [versionOf_of_find? (find?_put_code hputs'), hv]
    rw [← hlater, versionOf_of_find? hold] at hle
    omega

/-- **Rows are replaced by compare and set.** After any writes to an empty table, every row is found
under its own code and has nothing pending, and no code is ever removed. A write that puts in no row
fails and changes nothing. One that succeeds changes the row of its own code only, and takes it one
version on where there was one, so no version of a fabric is written twice. An active row is never
saved over, and a deleted one changes only by a `save`, which reactivates it. -/
theorem compare_and_set (past : List Write) :
    ((ofWrites past).rows.map Fabric.code).Nodup ∧
    (∀ row ∈ (ofWrites past).rows,
      (ofWrites past).find? row.code = some row ∧ row.pending = []) ∧
    (∀ later, (ofWrites past).rows.map Fabric.code <+:
      (ofWrites (past ++ later)).rows.map Fabric.code) ∧
    (∀ w, ((ofWrites past).write w).1 = .ok () ↔ ∃ row, Puts (ofWrites past) w row) ∧
    (∀ w e, ((ofWrites past).write w).1 = .error e → ofWrites (past ++ [w]) = ofWrites past) ∧
    (∀ w, ((ofWrites past).write w).1 = .ok () →
      Raises (ofWrites past) w (ofWrites (past ++ [w]))) ∧
    (∀ w later w', ((ofWrites past).write w).1 = .ok () →
      ((ofWrites (past ++ w :: later)).write w').1 = .ok () → w'.code = w.code →
      (ofWrites (past ++ [w])).versionOf w.code <
        (ofWrites (past ++ w :: later ++ [w'])).versionOf w.code) ∧
    (∀ f row, (ofWrites past).find? f.code = some row → row.status = .active →
      (ofWrites past).save f = (.error (.duplicateCode f.code), ofWrites past)) ∧
    ∀ w code row, (ofWrites past).find? code = some row → row.status = .deleted →
      (ofWrites (past ++ [w])).find? code ≠ some row →
      ∃ f, w = .save f ∧ f.code = code ∧
        (ofWrites past).save f =
          (.ok (.changed code f.details .active (row.version + 1) (.reactivated f.details)),
            ofWrites (past ++ [w])) ∧
        (ofWrites (past ++ [w])).find? code =
          some (.restore code f.details .active (row.version + 1)) := by
  have hkept := kept_ofWrites past
  refine ⟨hkept.codes_nodup, fun row hrow => ?_, codes_prefix_ofWrites past,
    fun w => write_eq_ok_iff, fun w e h => ?_, fun w h => ?_,
    fun w later w' => versionOf_lt_of_writes, fun f row => save_of_active, fun w code row => ?_⟩
  · exact ⟨find?_of_mem_of_nodup hkept.codes_nodup hrow, hkept.pending_eq_nil row hrow⟩
  · rw [ofWrites_append_singleton]
    exact write_of_error h
  · obtain ⟨row, hputs⟩ := write_eq_ok_iff.mp h
    rw [ofWrites_append_singleton, write_of_puts hputs]
    exact hputs.raises
  · rw [ofWrites_append_singleton]
    exact revived_of_ne hkept

end Table

end FabricRegistry.Catalogue

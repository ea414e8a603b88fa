import FabricRegistry.Proofs.Database.FabricTable
import Mathlib.Data.List.Infix

/-!
The catalogue in a database against the catalogue in memory. Both are given the same requests, one
after the other. Each request is first followed through its session: whatever the statements of the
session are answered, it has the reply that it has in memory and leaves the rows that it leaves
there. What holds of one request holds of a sequence by induction (`catalogue_follows`).
-/

namespace FabricRegistry.Database

open Catalogue (Table Request)

variable {T : Tables} {t t' : Table} {f row : Fabric} {code : Code}

/-! ### Requests -/

/-- A request goes as it goes in memory: it has the same reply and leaves the same rows. -/
def Follows (t : Table) (q : Request) (r : q.Reply) (v : View) : Prop :=
  r = (t.reply q).1 ∧ ∃ T, v = ⟨T, .idle⟩ ∧ Holds T (t.reply q).2

theorem filter_all (o : Option Fabric) : o.filter (fun _ => true) = o := by
  cases o <;> rfl

/-- the reply with the fabric of a code that was looked up -/
def foundOr (code : Code) (found : Option Fabric) : Except Catalogue.Error Fabric :=
  found.elim (.error (.notFound code)) .ok

theorem findActive_eq (t : Table) (code : Code) :
    t.findActive code = foundOr code ((t.find? code).filter Fabric.isActive) := by
  unfold Table.findActive
  cases t.find? code with
  | none => rfl
  | some row => cases ha : row.isActive <;> simp [foundOr, Option.filter, ha]

theorem findAny_eq (t : Table) (code : Code) : t.findAny code = foundOr code (t.find? code) := by
  unfold Table.findAny
  cases t.find? code <;> rfl

theorem ensures_findFabric {s : Statement} {conditions : List (String × Operand)}
    {g : Fabric → Bool} (ht : t.Keyed) (h : Holds T t)
    (hs : s.query = .select fabricColumns "fabrics" conditions none)
    (hc : ∀ p ∈ conditions, p.1 ∈ fabricColumns)
    (hm : ∀ time f, meets s.params time conditions (fabricRow f) =
      (decide (f.code = code) && g f)) :
    Ensures (fun r v => v = ⟨T, .idle⟩ ∧ r = foundOr code ((t.find? code).filter g))
      (findFabric s code) ⟨T, .idle⟩ := by
  refine (ensures_bind _ _ _).mpr (ensures_execute fun reply v' hr => ?_)
  obtain ⟨rfl, n, rfl⟩ := answers_fabric ht h rfl hs hc hm hr
  cases hfound : (t.find? code).filter g with
  | none => exact ⟨rfl, rfl⟩
  | some row =>
    have hrow := (Option.filter_eq_some_iff.mp hfound).1
    exact ⟨rfl, fabricOfRow_fabricRow (ht.tidy code row hrow).1⟩

theorem ensures_findActive (ht : t.Keyed) (h : Holds T t) (code : Code) :
    Ensures (Follows t (.findActive code)) (catalogue (.findActive code)) ⟨T, .idle⟩ := by
  have hm : ∀ time f, meets (Statement.selectActive code).params time
      [("code", .parameter 1), ("status", .literal "ACTIVE")] (fabricRow f) =
        (decide (f.code = code) && f.isActive) := by
    intro time f
    simp [meets, Statement.params, Operand.value, Fabric.isActive]
  refine (ensures_findFabric ht h rfl (by decide) hm).imp fun r v hr => ?_
  obtain ⟨rfl, rfl⟩ := hr
  exact ⟨(findActive_eq t code).symm, T, rfl, h⟩

theorem ensures_findAny (ht : t.Keyed) (h : Holds T t) (code : Code) :
    Ensures (Follows t (.findAny code)) (catalogue (.findAny code)) ⟨T, .idle⟩ := by
  have hm : ∀ time f, meets (Statement.selectAny code).params time [("code", .parameter 1)]
      (fabricRow f) = (decide (f.code = code) && true) := by
    intro time f
    simp [meets, Statement.params, Operand.value]
  refine (ensures_findFabric ht h rfl (by decide) hm).imp fun r v hr => ?_
  obtain ⟨rfl, rfl⟩ := hr
  rw [filter_all]
  exact ⟨(findAny_eq t code).symm, T, rfl, h⟩

/-- an active row at a version -/
def writableAt (previous : ℕ) (row : Fabric) : Bool :=
  row.isActive && decide (row.version = previous)

/-- a conditional write in memory, which makes `w` of the row that it finds -/
def writeRow (t : Table) (f : Fabric) (w : Fabric → Fabric) : Except Catalogue.Error Unit × Table :=
  match t.writable f with
  | .ok row => (.ok (), t.put (w row))
  | .error e => (.error e, t)

theorem writeRow_of_error {e : Catalogue.Error} {w : Fabric → Fabric}
    (hp : Catalogue.previousVersion f = .error e) : writeRow t f w = (.error e, t) := by
  simp [writeRow, Table.writable, hp]

theorem writeRow_eq {previous : ℕ} {w : Fabric → Fabric}
    (hp : Catalogue.previousVersion f = .ok previous) :
    writeRow t f w =
      ((foundOr f.code ((t.find? f.code).filter (writableAt previous))).map fun _ => (),
        changeRow t f.code (writableAt previous) w) := by
  unfold writeRow Table.writable changeRow
  rw [hp, ok_bind]
  cases t.find? f.code with
  | none => rfl
  | some row => by_cases ha : row.isActive ∧ row.version = previous <;>
      simp [foundOr, Option.filter, writableAt, ha, Except.map]

theorem catalogueVersion_of_le {n : ℕ} (hn : n ≤ maxBigint) : catalogueVersion n = .ok n := by
  simp [catalogueVersion, storedVersion, hn]

theorem catalogueVersion_of_lt {n : ℕ} (hn : maxBigint < n) :
    catalogueVersion n = .error (.storage s!"version {n} exceeds BIGINT range") := by
  simp [catalogueVersion, storedVersion, Nat.not_le.mpr hn]

theorem previousVersion_eq_ok {previous : ℕ} (hp : Catalogue.previousVersion f = .ok previous) :
    f.version = previous + 1 ∧ 1 ≤ previous := by
  unfold Catalogue.previousVersion at hp
  split at hp
  · cases hp
    omega
  · cases hp

theorem boundVersions_ok {previous : ℕ} (hp : Catalogue.previousVersion f = .ok previous)
    (hf : f.version ≤ maxBigint) : boundVersions f = .ok (f.version, previous) := by
  have hle : previous ≤ maxBigint := by
    have := (previousVersion_eq_ok hp).1
    omega
  simp [boundVersions, hp, catalogueVersion_of_le hf, catalogueVersion_of_le hle]

theorem ensures_writeFabric {s : Statement} {assignments conditions : List (String × Operand)}
    {g : Fabric → Bool} {u : Fabric → Fabric} {step : String} (ht : t.Keyed) (h : Holds T t)
    (hs : s.query = .update "fabrics" assignments conditions)
    (hc : ∀ p ∈ conditions, p.1 ∈ fabricColumns)
    (hm : ∀ time f, meets s.params time conditions (fabricRow f) = (decide (f.code = code) && g f))
    (hu : ∀ time f, f.code = code → g f = true →
      ((given s.params time assignments).onto (fabricRow f)).project fabricColumns =
        fabricRow (u f))
    (hcode : ∀ f, f.code = code → (u f).code = code) (ht' : (changeRow t code g u).Keyed) :
    Ensures (fun r v => r = (foundOr code ((t.find? code).filter g)).map (fun _ => ()) ∧
      ∃ T, v = ⟨T, .idle⟩ ∧ Holds T (changeRow t code g u)) (writeFabric s step code)
      ⟨T, .idle⟩ := by
  refine (ensures_bind _ _ _).mpr (ensures_execute fun reply v' hr => ?_)
  obtain ⟨rfl, rows, rfl, hrows⟩ := answers_writing rfl ht'
    (fun time => hs ▸ written_update ht h hc (hm time) (hu time) hcode) hr
  refine ⟨?_, _, rfl, hrows⟩
  cases (t.find? code).filter g <;> rfl

/-- Updates and deletions, which differ in the statement and in the row that they leave. -/
theorem ensures_writeRow (s : ℤ → ℤ → Statement) (w : Fabric → Fabric) (step : String)
    {assignments conditions : List (String × Operand)} (ht : t.Keyed) (h : Holds T t)
    (hf : f.version ≤ maxBigint)
    (hs : ∀ version previous, (s version previous).query = .update "fabrics" assignments conditions)
    (hc : ∀ p ∈ conditions, p.1 ∈ fabricColumns)
    (hm : ∀ (previous : ℕ) time row,
      meets (s f.version previous).params time conditions (fabricRow row) =
        (decide (row.code = f.code) && writableAt previous row))
    (hw : ∀ (previous : ℕ) time row, row.code = f.code → row.isActive = true →
      ((given (s f.version previous).params time assignments).onto (fabricRow row)).project
        fabricColumns = fabricRow (w row))
    (hrow : ∀ row, (w row).settled = w row ∧ (w row).code = f.code ∧ (w row).version = f.version) :
    Ensures (fun r v => r = (writeRow t f w).1 ∧ ∃ T, v = ⟨T, .idle⟩ ∧ Holds T (writeRow t f w).2)
      (match boundVersions f with
        | .error e => .done (.error e)
        | .ok (version, previous) => writeFabric (s version previous) step f.code) ⟨T, .idle⟩ := by
  cases hp : Catalogue.previousVersion f with
  | error e =>
    have hbound : boundVersions f = .error e := by simp [boundVersions, hp]
    rw [hbound, writeRow_of_error hp]
    exact ⟨rfl, T, rfl, h⟩
  | ok previous =>
    rw [boundVersions_ok hp hf, writeRow_eq hp]
    have hkeyed : (changeRow t f.code (writableAt previous) w).Keyed := by
      unfold changeRow
      split
      · next row _ =>
        obtain ⟨hsettled, -, hversion⟩ := hrow row
        have hpos := (previousVersion_eq_ok hp).1
        exact hsettled ▸ ht.put (by omega)
      · exact ht
    exact ensures_writeFabric ht h (hs _ _) hc (hm previous)
      (fun time row hcode hg => hw previous time row hcode (Bool.and_elim_left hg))
      (fun row _ => (hrow row).2.1) hkeyed

theorem ensures_update (ht : t.Keyed) (h : Holds T t) (hf : f.version ≤ maxBigint) :
    Ensures (Follows t (.update f)) (catalogue (.update f)) ⟨T, .idle⟩ := by
  refine ensures_writeRow (.updateFabric f.code f.details)
    (fun _ => .restore f.code f.details .active f.version) "update_fabric"
    ht h hf (fun _ _ => rfl) (by decide) ?_ ?_ ?_
  · intro previous time row
    simp [meets, Statement.params, Operand.value, writableAt, Fabric.isActive, Bool.and_comm]
  · intro previous time row hcode ha
    have hs : row.status = .active := of_decide_eq_true ha
    simp [project_eq_fabricRow_iff, Row.value_onto, given, Statement.params, Operand.value,
      List.lookup_cons, Fabric.restore, hcode, hs]
  · exact fun _ => ⟨rfl, rfl, rfl⟩

theorem ensures_delete (ht : t.Keyed) (h : Holds T t) (hf : f.version ≤ maxBigint) :
    Ensures (Follows t (.delete f)) (catalogue (.delete f)) ⟨T, .idle⟩ := by
  refine ensures_writeRow (.deleteFabric f.code)
    (fun row => .restore f.code row.details .deleted f.version) "delete_fabric"
    ht h hf (fun _ _ => rfl) (by decide) ?_ ?_ ?_
  · intro previous time row
    simp [meets, Statement.params, Operand.value, writableAt, Fabric.isActive, Bool.and_comm]
  · intro previous time row hcode ha
    simp [project_eq_fabricRow_iff, Row.value_onto, given, Statement.params, Operand.value,
      List.lookup_cons, Fabric.restore, Status.text, hcode]
  · exact fun _ => ⟨rfl, rfl, rfl⟩

/-- the values that the columns of a fabric are bound to -/
def boundRow (f : Fabric) : FabricRow := ⟨f.code, f.details, f.status, f.version⟩

theorem rowOfFabric_of_le (hf : f.version ≤ maxBigint) : rowOfFabric f = .ok (boundRow f) := by
  simp [rowOfFabric, boundRow, catalogueVersion_of_le hf]

/-- A fabric without a row gets one. -/
theorem ensures_insertFabric (ht : t.Keyed) (h : Holds T t) (hfind : t.find? f.code = none)
    (hpos : 1 ≤ f.version) (hf : f.version ≤ maxBigint) :
    Ensures (fun r v => r = .ok f ∧ ∃ T', v = ⟨T, .active T'⟩ ∧ Holds T' (t.put f.settled))
      (insertFabric f) ⟨T, .active T⟩ := by
  have hw : ∀ time, ∃ rows, (Statement.insertFabric (boundRow f)).query.written?
      (Statement.insertFabric (boundRow f)).params time T = some ("fabrics", rows, 1) ∧
      Shown fabricColumns fabricRow rows (t.put f.settled).rows := by
    intro time
    refine ⟨_, rfl, ?_⟩
    have hnone : t.find? f.settled.code = none := hfind
    rw [Table.rows_put_of_none hnone]
    refine h.concat ?_
    rw [fabricRow_settled, project_eq_fabricRow_iff]
    simp [Row.value_onto, given, Statement.params, boundRow, fabricColumns, Operand.value,
      List.lookup_cons]
  unfold insertFabric
  rw [rowOfFabric_of_le hf]
  refine (ensures_bind _ _ _).mpr (ensures_execute fun reply v' hr => ?_)
  obtain ⟨rfl, rows, rfl, hrows⟩ := answers_writing rfl (ht.put hpos) hw hr
  exact ⟨rfl, _, rfl, hrows⟩

/-- a row at a version -/
def atVersion (n : ℕ) (row : Fabric) : Bool := row.version = n

/-- What the return of a deleted fabric writes. -/
theorem written_reactivate (ht : t.Keyed) (h : Holds T t) (hfind : t.find? f.code = some row)
    (time : Cell) :
    ∃ rows, (Statement.reactivateFabric (boundRow f) row.version).query.written?
        (Statement.reactivateFabric (boundRow f) row.version).params time T =
          some ("fabrics", rows, 1) ∧
      Shown fabricColumns fabricRow rows (t.put f.settled).rows := by
  have hfound : (t.find? f.code).filter (atVersion row.version) = some row := by
    simp [hfind, Option.filter, atVersion]
  have hwritten : ∃ rows, (Statement.reactivateFabric (boundRow f) row.version).query.written?
        (Statement.reactivateFabric (boundRow f) row.version).params time T =
          some ("fabrics", rows, ((t.find? f.code).filter (atVersion row.version)).toList.length) ∧
      Shown fabricColumns fabricRow rows
        (changeRow t f.code (atVersion row.version) fun _ => f.settled).rows := by
    refine written_update ht h (by decide) (fun r => ?_) (fun r hr hg => ?_) (fun _ _ => rfl)
    · simp [meets, Statement.params, Operand.value, boundRow, atVersion]
    · simp [project_eq_fabricRow_iff, Row.value_onto, given, Statement.params, Operand.value,
        List.lookup_cons, boundRow, hr, Fabric.settled]
  rw [changeRow, hfound] at hwritten
  exact hwritten

/-- A deleted fabric comes back in its row. -/
theorem ensures_reviveFabric {revived : Fabric} (ht : t.Keyed) (h : Holds T t)
    (hfind : t.find? f.code = some row) (hs : row.status = .deleted)
    (hr : row.reactivate f.details row.version = .ok revived) (hv : revived.version ≤ maxBigint) :
    Ensures (fun r v => r = .ok revived ∧
        ∃ T', v = ⟨T, .active T'⟩ ∧ Holds T' (t.put revived.settled))
      (reviveFabric row f) ⟨T, .active T⟩ := by
  have hadvance := Fabric.eq_advance_of_reactivate hs hr
  have hversion : revived.version = row.version + 1 := by rw [hadvance]; rfl
  have hprevious : row.version ≤ maxBigint := by omega
  have hcode : revived.code = row.code := by rw [hadvance]; rfl
  have hfind' : t.find? revived.code = some row := by
    rw [hcode, Table.code_of_find? hfind]
    exact hfind
  unfold reviveFabric
  rw [hr, mapError_ok]
  dsimp only
  rw [rowOfFabric_of_le hv, catalogueVersion_of_le hprevious]
  refine (ensures_bind _ _ _).mpr (ensures_execute fun reply v' hreply => ?_)
  obtain ⟨rfl, rows, rfl, hrows⟩ :=
    answers_writing rfl (ht.put (by omega)) (written_reactivate ht h hfind') hreply
  exact ⟨rfl, _, rfl, hrows⟩

theorem ensures_save (ht : t.Keyed) (h : Holds T t) (hpos : 1 ≤ f.version)
    (hf : f.version ≤ maxBigint)
    (hv : ∀ row ∈ (t.reply (.save f)).2.rows, row.version ≤ maxBigint) :
    Ensures (Follows t (.save f)) (catalogue (.save f)) ⟨T, .idle⟩ := by
  have hm : ∀ time r, meets (Statement.selectForUpdate f.code).params time
      [("code", .parameter 1)] (fabricRow r) = (decide (r.code = f.code) && true) := by
    intro time r
    simp [meets, Statement.params, Operand.value]
  refine ensures_transaction rfl ((ensures_bind _ _ _).mpr (ensures_execute fun reply v' hr => ?_))
  obtain ⟨rfl, n, rfl⟩ := answers_fabric ht h rfl rfl (by decide) hm hr
  rw [filter_all]
  cases hfind : t.find? f.code with
  | none =>
    have hreply : t.reply (.save f) = (.ok f, t.put f.settled) := Table.save_of_none hfind
    refine (ensures_insertFabric ht h hfind hpos hf).imp ?_
    rintro _ _ ⟨rfl, T', rfl, hT'⟩
    exact ⟨T', rfl, by rw [hreply], T', rfl, by rw [hreply]; exact hT'⟩
  | some row =>
    have hrow : fabricOfRow (fabricRow row) = .ok row :=
      fabricOfRow_fabricRow (ht.tidy f.code row hfind).1
    simp only [mapError_ok, Option.toList_some, List.map_cons]
    rw [hrow]
    dsimp only
    cases hs : row.status with
    | active =>
      have hreply : t.reply (.save f) = (.error (.duplicateCode f.code), t) :=
        Table.save_of_active hfind hs
      have ha : row.isActive = true := decide_eq_true hs
      rw [if_pos ha]
      exact ⟨rfl, by rw [hreply], T, rfl, by rw [hreply]; exact h⟩
    | deleted =>
      have ha : ¬ row.isActive = true := by simp [Fabric.isActive, hs]
      rw [if_neg ha]
      cases hr : row.reactivate f.details row.version with
      | error e =>
        have hreply : t.reply (.save f) = (.error (.domain e), t) := by
          simp [Table.reply, Table.save, hfind, ha, hr]
        unfold reviveFabric
        rw [hr]
        exact ⟨rfl, by rw [hreply], T, rfl, by rw [hreply]; exact h⟩
      | ok revived =>
        have hreply : t.reply (.save f) = (.ok revived, t.put revived.settled) := by
          simp [Table.reply, Table.save, hfind, ha, hr]
        have hversion : revived.version ≤ maxBigint :=
          hv revived.settled (by rw [hreply]; exact Table.mem_put_self t _)
        refine (ensures_reviveFabric ht h hfind hs hr hversion).imp ?_
        rintro _ _ ⟨rfl, T', rfl, hT'⟩
        exact ⟨T', rfl, by rw [hreply], T', rfl, by rw [hreply]; exact hT'⟩

/-! ### Sequences of requests -/

/-- the table in memory after requests to an empty one -/
def tableAfter (past : List Request) : Table := past.foldl (fun t q => (t.reply q).2) .empty

theorem tableAfter_snoc (past : List Request) (q : Request) :
    tableAfter (past ++ [q]) = ((tableAfter past).reply q).2 := by
  simp [tableAfter]

/-- the server after requests -/
def Server.after {σ : Type} (db : Server σ) (past : List Request) (st : σ) : σ :=
  past.foldl (fun st q => (db.run (catalogue q) st).2) st

theorem Server.after_snoc {σ : Type} (db : Server σ) (past : List Request) (q : Request) (st : σ) :
    db.after (past ++ [q]) st = (db.run (catalogue q) (db.after past st)).2 := by
  simp [Server.after]

/-- What is written has a version from 1 to the greatest that the database stores. -/
def InRange : Request → Prop
  | .save f | .update f | .delete f => 1 ≤ f.version ∧ f.version ≤ maxBigint
  | .findActive _ | .findAny _ => True

instance : (q : Request) → Decidable (InRange q)
  | .save f | .update f | .delete f =>
    inferInstanceAs (Decidable (1 ≤ f.version ∧ f.version ≤ maxBigint))
  | .findActive _ | .findAny _ => .isTrue trivial

theorem ensures_catalogue {q : Request} (ht : t.Keyed) (h : Holds T t) (hq : InRange q)
    (hv : ∀ row ∈ (t.reply q).2.rows, row.version ≤ maxBigint) :
    Ensures (Follows t q) (catalogue q) ⟨T, .idle⟩ := by
  cases q with
  | save f => exact ensures_save ht h hq.1 hq.2 hv
  | findActive code => exact ensures_findActive ht h code
  | findAny code => exact ensures_findAny ht h code
  | update f => exact ensures_update ht h hq.2
  | delete f => exact ensures_delete ht h hq.2

theorem keyed_tableAfter {past : List Request} (hq : ∀ q ∈ past, InRange q) :
    (tableAfter past).Keyed := by
  induction past using List.reverseRecOn with
  | nil => exact Table.keyed_empty
  | append_singleton past q ih =>
    rw [tableAfter_snoc]
    refine (ih fun q' hq' => hq q' (List.mem_append_left _ hq')).reply ?_
    rintro f rfl
    exact (hq (.save f) (by simp)).1

section Sequences

variable {σ : Type} {db : Server σ} {st : σ} {past : List Request} {q : Request}

/-- One more request, where the rows are the same so far. -/
theorem follows_of_holds (hf : db.Faithful)
    (hst : ∃ T, db.view (db.after past st) = ⟨T, .idle⟩ ∧ Holds T (tableAfter past))
    (hq : ∀ q' ∈ past ++ [q], InRange q')
    (hv : ∀ row ∈ (tableAfter (past ++ [q])).rows, row.version ≤ maxBigint) :
    Follows (tableAfter past) q (db.run (catalogue q) (db.after past st)).1
      (db.view (db.after (past ++ [q]) st)) := by
  obtain ⟨T, hview, hrows⟩ := hst
  have hkeyed := keyed_tableAfter fun q' hq' => hq q' (List.mem_append_left _ hq')
  rw [tableAfter_snoc] at hv
  have hensures := ensures_catalogue hkeyed hrows (hq q (by simp)) hv
  rw [Server.after_snoc]
  exact hf.run (catalogue q) (hview ▸ hensures)

theorem holds_after (hf : db.Faithful) (hidle : (db.view st).work = .idle)
    (hempty : (db.view st).committed "fabrics" = []) (hq : ∀ q ∈ past, InRange q)
    (hv : ∀ earlier, earlier <+: past → ∀ row ∈ (tableAfter earlier).rows,
      row.version ≤ maxBigint) :
    ∃ T, db.view (db.after past st) = ⟨T, .idle⟩ ∧ Holds T (tableAfter past) := by
  induction past using List.reverseRecOn with
  | nil =>
    refine ⟨(db.view st).committed, ?_, by simp [Holds, Shown, hempty, tableAfter, Table.empty]⟩
    rw [← hidle]
    rfl
  | append_singleton past q ih =>
    have hpast := ih (fun q' hq' => hq q' (List.mem_append_left _ hq'))
      (fun earlier h => hv earlier (h.trans (List.prefix_append past [q])))
    have hnext := (follows_of_holds hf hpast hq (hv _ (List.prefix_refl _))).2
    rw [tableAfter_snoc]
    exact hnext

/-- **The database goes as memory goes.** A server that answers as the texts of the statements say,
its table empty, is asked for one request after the other, in which all versions are in range, and
so is the table in memory. Every request then has the same reply from both, and after every request
both have the same rows. -/
theorem catalogue_follows (hf : db.Faithful) (hidle : (db.view st).work = .idle)
    (hempty : (db.view st).committed "fabrics" = []) (past : List Request) (q : Request)
    (hq : ∀ q' ∈ past ++ [q], InRange q')
    (hv : ∀ earlier, earlier <+: past ++ [q] → ∀ row ∈ (tableAfter earlier).rows,
      row.version ≤ maxBigint) :
    (db.run (catalogue q) (db.after past st)).1 = ((tableAfter past).reply q).1 ∧
      ∃ T, db.view (db.after (past ++ [q]) st) = ⟨T, .idle⟩ ∧
        Holds T (tableAfter (past ++ [q])) := by
  have hpast := holds_after hf hidle hempty (fun q' hq' => hq q' (List.mem_append_left _ hq'))
    (fun earlier h => hv earlier (h.trans (List.prefix_append past [q])))
  obtain ⟨hreply, hrows⟩ := follows_of_holds hf hpast hq (hv _ (List.prefix_refl _))
  rw [tableAfter_snoc]
  exact ⟨hreply, hrows⟩

end Sequences

/-! ### A fabric that comes back -/

def jute : Code := ⟨"JU20", by decide, by decide⟩

/-- a fabric is created, deleted, and created again by a caller who does not know of it -/
def juteRequests : List Request :=
  [.save (.changed jute ⟨"Jute", "m", "NEW"⟩ .active 1 (.created ⟨"Jute", "m", "NEW"⟩)),
    .delete (.changed jute ⟨"Jute", "m", "NEW"⟩ .deleted 2 .deleted)]

def juteAgain : Request :=
  .save (.changed jute ⟨"Jute", "m", "BACK"⟩ .active 1 (.created ⟨"Jute", "m", "BACK"⟩))

theorem catalogue_follows_jute :
    (∀ q ∈ juteRequests ++ [juteAgain], InRange q) ∧
      (∀ earlier, earlier <+: juteRequests ++ [juteAgain] → ∀ row ∈ (tableAfter earlier).rows,
        row.version ≤ maxBigint) ∧
      (engine.run (catalogue juteAgain) (engine.after juteRequests noRows)).1 =
        .ok (.changed jute ⟨"Jute", "m", "BACK"⟩ .active 3 (.reactivated ⟨"Jute", "m", "BACK"⟩)) ∧
      ∃ T, engine.view (engine.after (juteRequests ++ [juteAgain]) noRows) = ⟨T, .idle⟩ ∧
        Holds T ⟨[.restore jute ⟨"Jute", "m", "BACK"⟩ .active 3]⟩ := by
  have hq : ∀ q ∈ juteRequests ++ [juteAgain], InRange q := by decide +kernel
  have hv : ∀ earlier, earlier <+: juteRequests ++ [juteAgain] →
      ∀ row ∈ (tableAfter earlier).rows, row.version ≤ maxBigint := by
    have hinits : ∀ earlier ∈ (juteRequests ++ [juteAgain]).inits,
        ∀ row ∈ (tableAfter earlier).rows, row.version ≤ maxBigint := by decide +kernel
    exact fun earlier h => hinits earlier ((List.mem_inits _ _).mpr h)
  exact ⟨hq, hv, catalogue_follows engine_faithful rfl rfl juteRequests juteAgain hq hv⟩

end FabricRegistry.Database

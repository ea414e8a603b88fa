import FabricRegistry.Proofs.Database.Catalogue
import FabricRegistry.Proofs.Database.Reading
import FabricRegistry.Proofs.Database.Session

/-!
The calls with which a fabric is saved in a database, whatever the database replies. In one
transaction the row of the code is locked, and what the reply says of it decides the rest: either
one statement is due, with the fabric that is then saved (`Due`), or there is a reason to send none
(`Barred`). Main statement: `save_discipline`.
-/

namespace FabricRegistry.Database

open Catalogue (Error)
open Dialogue

/-! ### The forms of a saving -/

/-- a deleted fabric brought back with the details of another -/
def revival (stored f : Fabric) : Fabric :=
  .changed stored.code f.details .active (stored.version + 1) (.reactivated f.details)

/-- **The statement that is due for a fabric** and the fabric that is then saved, by the row of the
code: the fabric is inserted, or the deleted one comes back in its row, from the version that is
stored there. -/
inductive Due (f : Fabric) : Option Row → Statement → Fabric → Prop where
  | insertion (hf : f.version ≤ 2 ^ 63 - 1) : Due f none (.insertFabric (boundRow f)) f
  | revival {row stored} (hrow : ShowsFabric row stored) (hs : stored.status = .deleted)
      (hd : f.details.Named) (hv : stored.version + 1 ≤ 2 ^ 63 - 1) :
      Due f (some row) (.reactivateFabric (boundRow (revival stored f)) stored.version)
        (revival stored f)

/-- **Why no statement is due for a fabric**, by the row of the code. -/
inductive Barred (f : Fabric) : Option Row → Error → Prop where
  | beyond (hf : 2 ^ 63 - 1 < f.version) :
      Barred f none (.storage s!"version {f.version} exceeds BIGINT range")
  | unreadable {row reason} (hrow : ∀ stored, ¬ ShowsFabric row stored) :
      Barred f (some row) (.storage reason)
  | active {row stored} (hrow : ShowsFabric row stored) (hs : stored.status = .active) :
      Barred f (some row) (.duplicateCode f.code)
  | unnamed {row stored} (hrow : ShowsFabric row stored) (hs : stored.status = .deleted)
      (hd : ¬ f.details.Named) :
      Barred f (some row) (.domain (.validation (.nameLength f.details.name.length)))
  | exhausted {row stored} (hrow : ShowsFabric row stored) (hs : stored.status = .deleted)
      (hd : f.details.Named) (hv : 2 ^ 63 - 1 < stored.version + 1) :
      Barred f (some row) (.storage s!"version {stored.version + 1} exceeds BIGINT range")

/-- The failure of the statement that is due, in the words of the catalogue: a new fabric may find
that its code is taken by now. -/
def dueFailure (f : Fabric) : Option Row → Failure → Error
  | none, e =>
    if e.isUniqueViolation then .duplicateCode f.code else catalogueFailure "insert_fabric" e
  | some _, e => catalogueFailure "reactivate_fabric" e

/-- **The calls for a fabric once the row of its code is known**, with their result: the statement
that is due, if one is. -/
inductive Placing (f : Fabric) : Option Row → List Call → Except Error Fabric → Prop where
  | barred {known err} (h : Barred f known err) : Placing f known [] (.error err)
  | failed {known s g} {e : Failure} (h : Due f known s g) :
      Placing f known [⟨s, .error e⟩] (.error (dueFailure f known e))
  | saved {known s g} {reply : Reply} (h : Due f known s g) :
      Placing f known [⟨s, .ok reply⟩] (.ok g)

/-- **The calls within the transaction of a save** with its result: the row of the code is locked,
and its first row in the reply decides the rest. -/
inductive Saving (f : Fabric) : List Call → Except Error Fabric → Prop where
  | notLocked {e : Failure} :
      Saving f [⟨.selectForUpdate f.code, .error e⟩] (.error (catalogueFailure "lock_fabric" e))
  | locked {reply : Reply} {calls r} (h : Placing f reply.rows.head? calls r) :
      Saving f (⟨.selectForUpdate f.code, .ok reply⟩ :: calls) r

variable {f stored : Fabric} {row : Row} {calls : List Call} {r : Except Error Fabric}

/-! ### The statement that is due -/

theorem rowOfFabric_of_lt (hf : maxBigint < f.version) :
    rowOfFabric f = .error (.storage s!"version {f.version} exceeds BIGINT range") := by
  simp [rowOfFabric, catalogueVersion_of_lt hf]

/-- The calls for a fabric whose code has no row. -/
theorem placing_of_insertFabric (h : Transcript (insertFabric f) calls r) :
    Placing f none calls r := by
  unfold insertFabric at h
  by_cases hf : f.version ≤ maxBigint
  · rw [rowOfFabric_of_le hf] at h
    rcases calls_attempt h fun _ => rfl with ⟨e, rfl, rfl⟩ | ⟨reply, rest, rfl, hrest⟩
    · exact .failed (.insertion hf)
    · obtain ⟨rfl, rfl⟩ := transcript_done_iff.mp hrest
      exact .saved (.insertion hf)
  · rw [rowOfFabric_of_lt (Nat.lt_of_not_le hf)] at h
    obtain ⟨rfl, rfl⟩ := transcript_done_iff.mp h
    exact .barred (.beyond (Nat.lt_of_not_le hf))

/-- A deleted fabric comes back with a name that is allowed. -/
theorem reactivate_of_shows (hrow : ShowsFabric row stored) (hs : stored.status = .deleted) :
    (f.details.Named ∧ stored.reactivate f.details stored.version = .ok (revival stored f)) ∨
      (¬ f.details.Named ∧ stored.reactivate f.details stored.version =
        .error (.validation (.nameLength f.details.name.length))) := by
  by_cases hd : f.details.Named
  · refine Or.inl ⟨hd, ?_⟩
    rw [Fabric.reactivate_of_deleted hs (Details.validate_eq_ok_iff.mpr hd),
      Fabric.advance_eq_changed hrow.pending]
    rfl
  · have hvalidate : f.details.validate = .error (.nameLength f.details.name.length) := if_neg hd
    refine Or.inr ⟨hd, ?_⟩
    simp [Fabric.reactivate, Fabric.checkVersion, hs, hvalidate]

/-- The calls for a fabric whose code has the row of a deleted one. -/
theorem placing_of_reviveFabric (hrow : ShowsFabric row stored) (hs : stored.status = .deleted)
    (h : Transcript (reviveFabric stored f) calls r) : Placing f (some row) calls r := by
  unfold reviveFabric at h
  rcases reactivate_of_shows hrow hs with ⟨hd, hr⟩ | ⟨hd, hr⟩
  · rw [hr, mapError_ok] at h
    dsimp only at h
    by_cases hv : stored.version + 1 ≤ maxBigint
    · -- the condition is on the version before the one that is written, so it fits as well
      have hprevious : stored.version ≤ maxBigint := by omega
      have hbound : rowOfFabric (revival stored f) = .ok (boundRow (revival stored f)) :=
        rowOfFabric_of_le hv
      rw [hbound, catalogueVersion_of_le hprevious] at h
      rcases calls_attempt h fun _ => rfl with ⟨e, rfl, rfl⟩ | ⟨reply, rest, rfl, hrest⟩
      · exact .failed (.revival hrow hs hd hv)
      · obtain ⟨rfl, rfl⟩ := transcript_done_iff.mp (transcript_remark_iff.mp hrest)
        exact .saved (.revival hrow hs hd hv)
    · have hbound : rowOfFabric (revival stored f) =
          .error (.storage s!"version {stored.version + 1} exceeds BIGINT range") :=
        rowOfFabric_of_lt (Nat.lt_of_not_le hv)
      rw [hbound] at h
      obtain ⟨rfl, rfl⟩ := transcript_done_iff.mp h
      exact .barred (.exhausted hrow hs hd (Nat.lt_of_not_le hv))
  · rw [hr] at h
    obtain ⟨rfl, rfl⟩ := transcript_done_iff.mp h
    exact .barred (.unnamed hrow hs hd)

/-! ### The transaction -/

/-- The calls of a save. -/
theorem enclosed_of_saveFabric (h : Transcript (saveFabric f) calls r) :
    Enclosed (catalogueFailure "begin_transaction") (catalogueFailure "commit_transaction")
      (Saving f) calls r := by
  refine enclosed_of_transaction h fun calls r h => ?_
  rcases calls_attempt h fun _ => rfl with ⟨e, rfl, rfl⟩ | ⟨reply, rest, rfl, hrest⟩
  · exact .notLocked
  · refine .locked ?_
    dsimp only at hrest
    cases hrows : reply.rows with
    | nil =>
      rw [hrows] at hrest
      exact placing_of_insertFabric hrest
    | cons row rows =>
      rw [hrows] at hrest
      dsimp only at hrest
      rcases fabricOfRow_cases row with ⟨stored, hread, hrow⟩ | ⟨reason, hread, hrow⟩
      · rw [hread] at hrest
        dsimp only at hrest
        cases hs : stored.status with
        | active =>
          have ha : stored.isActive = true := decide_eq_true hs
          rw [if_pos ha] at hrest
          obtain ⟨rfl, rfl⟩ := transcript_done_iff.mp hrest
          exact .barred (.active hrow hs)
        | deleted =>
          rw [if_neg (by simp [Fabric.isActive, hs])] at hrest
          exact placing_of_reviveFabric hrow hs hrest
      · rw [hread] at hrest
        obtain ⟨rfl, rfl⟩ := transcript_done_iff.mp hrest
        exact .barred (.unreadable hrow)

theorem Due.writes {known : Option Row} {s : Statement} {g : Fabric} (h : Due f known s g) :
    s.isCommit = false ∧ s.writes = true := by
  cases h <;> exact ⟨rfl, rfl⟩

theorem Placing.ok_iff {known : Option Row} (h : Placing f known calls r) :
    commits calls = 0 ∧ ((∃ g, r = .ok g) ↔ carriedOut calls ≠ []) := by
  cases h with
  | barred h => simp
  | failed h => simp [h.writes]
  | saved h => simp [h.writes]

/-- A row that no fabric has is left as it is. -/
theorem Placing.of_damaged (hrow : Damaged row) (h : Placing f (some row) calls r) :
    calls = [] ∧ ∃ reason, r = .error (.storage reason) := by
  have hnot : ∀ {s g}, ¬ Due f (some row) s g := by
    rintro _ _ (_ | ⟨hshows, -, -, -⟩)
    exact hrow.not_showsFabric _ hshows
  cases h with
  | barred h =>
    cases h with
    | unreadable => exact ⟨rfl, _, rfl⟩
    | active hshows => exact absurd hshows (hrow.not_showsFabric _)
    | unnamed hshows => exact absurd hshows (hrow.not_showsFabric _)
    | exhausted => exact ⟨rfl, _, rfl⟩
  | failed h => exact absurd h hnot
  | saved h => exact absurd h hnot

/-- A save succeeds when its statement is carried out. -/
theorem succeedsWhen_saving (f : Fabric) : SucceedsWhen (Saving f) (· ≠ []) where
  commits_eq_zero := by
    intro calls r h
    cases h with
    | notLocked => rfl
    | locked h => simp [Statement.isCommit, h.ok_iff]
  ok_iff := by
    have hlock : (Statement.selectForUpdate f.code).writes = false := rfl
    intro calls r h
    cases h with
    | notLocked => simp
    | locked h => simp [hlock, h.ok_iff]

/-- **The discipline of a save.** Let a database with a state of any kind reply what it likes. A
transaction is begun and the row of the fabric's code is locked. An active row is left alone, as its
code is taken. In the row of a deleted fabric at version `v` the new details, `ACTIVE` and `v + 1`
are written, provided that it still is at version `v`; the result is the fabric with these values
and the one fact that it was reactivated at `v + 1`. Without a row the fabric itself is inserted. A
row that no fabric has, a name of a wrong length and a version beyond the range of the column end
the save without a write. The transaction is committed exactly if the write succeeded, and then
once, and the save succeeds exactly if the commit does. -/
theorem save_discipline (f : Fabric) :
    Always (saveFabric f) (fun calls r =>
      Enclosed (catalogueFailure "begin_transaction") (catalogueFailure "commit_transaction")
        (Saving f) calls r ∧
      (commits calls = 1 ↔ carriedOut calls ≠ []) ∧
      commits calls ≤ 1 ∧
      ((∃ g, r = .ok g) ↔ ∃ reply, (⟨.commit, .ok reply⟩ : Call) ∈ calls)) ∧
    (∀ row, Damaged row → ∀ calls r, Placing f (some row) calls r →
      calls = [] ∧ ∃ reason, r = .error (.storage reason)) ∧
    (Statement.selectForUpdate f.code).Selects fabricColumns "fabrics"
      [("code", .text f.code.text)] ∧
    (Statement.insertFabric (boundRow f)).Inserts "fabrics" (fabricRow f) ∧
    ∀ stored : Fabric,
      (Statement.reactivateFabric (boundRow (revival stored f)) stored.version).Updates "fabrics"
        (fun time => [("name", .text f.details.name), ("measure_unit", .text f.details.measureUnit),
          ("offer_status", .text f.details.offerStatus), ("status", .text "ACTIVE"),
          ("version", .int (stored.version + 1)), ("updated_at", time)])
        [("code", .text stored.code.text), ("version", .int stored.version)] := by
  refine ⟨always_of_transcript fun calls r htranscript => ?_,
    fun row hrow calls r hplacing => hplacing.of_damaged hrow, ?_, ?_, fun stored => ?_⟩
  · have h := enclosed_of_saveFabric htranscript
    obtain ⟨hcommits, hle⟩ := h.commits_eq_one_iff (succeedsWhen_saving f) (by simp)
    exact ⟨h, hcommits, hle, h.ok_iff (succeedsWhen_saving f)⟩
  · exact ⟨_, _, Statement.read?_text _, fun _ => rfl⟩
  · exact ⟨_, _, Statement.read?_text _, fun _ => rfl⟩
  · exact ⟨_, _, Statement.read?_text _, fun _ => ⟨rfl, rfl⟩⟩

end FabricRegistry.Database

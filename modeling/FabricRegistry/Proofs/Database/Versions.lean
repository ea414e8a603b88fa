import FabricRegistry.Proofs.Database.Catalogue
import FabricRegistry.Proofs.Database.Reading
import FabricRegistry.Proofs.Database.Session

/-!
Versions at the border of a database, where they are whole numbers with a sign. A conditional write
is sent only when the version of the fabric and the one before it are numbers that can be stored,
and then with these two numbers (`Conditional`); what is read has the numbers that are stored, and a
negative one is a failure (`Lookup`, `Listing`). Main statement: `versions_kept`.
-/

namespace FabricRegistry.Database

open Catalogue (Error)
open Dialogue

/-! ### The forms of the sessions -/

/-- **The calls of a conditional write** with its result, by the version of the fabric. One
statement is sent, with this version and the one before it; `write` makes it of the two. -/
inductive Conditional (write : ℤ → ℤ → Statement) (step : String) (f : Fabric) :
    List Call → Except Error Unit → Prop where
  | first (hf : f.version ≤ 1) : Conditional write step f [] (.error (.notFound f.code))
  | beyond (hf : 2 ^ 63 - 1 < f.version) :
      Conditional write step f []
        (.error (.storage s!"version {f.version} exceeds BIGINT range"))
  | failed (hf : 2 ≤ f.version ∧ f.version ≤ 2 ^ 63 - 1) {e : Failure} :
      Conditional write step f [⟨write f.version (f.version - 1), .error e⟩]
        (.error (catalogueFailure step e))
  | missed (hf : 2 ≤ f.version ∧ f.version ≤ 2 ^ 63 - 1) {reply : Reply} (h : reply.affected = 0) :
      Conditional write step f [⟨write f.version (f.version - 1), .ok reply⟩]
        (.error (.notFound f.code))
  | written (hf : 2 ≤ f.version ∧ f.version ≤ 2 ^ 63 - 1) {reply : Reply}
      (h : 1 ≤ reply.affected) :
      Conditional write step f [⟨write f.version (f.version - 1), .ok reply⟩] (.ok ())

/-- **The calls of a look-up** with its result, by the first row of the reply. -/
inductive Lookup (s : Statement) (code : Code) : List Call → Except Error Fabric → Prop where
  | failed {e : Failure} : Lookup s code [⟨s, .error e⟩] (.error (catalogueFailure "load_fabric" e))
  | missing {reply : Reply} (h : reply.rows = []) :
      Lookup s code [⟨s, .ok reply⟩] (.error (.notFound code))
  | found {reply : Reply} {row rows f} (h : reply.rows = row :: rows) (hrow : ShowsFabric row f) :
      Lookup s code [⟨s, .ok reply⟩] (.ok f)
  | unreadable {reply : Reply} {row rows reason} (h : reply.rows = row :: rows)
      (hrow : ∀ f, ¬ ShowsFabric row f) :
      Lookup s code [⟨s, .ok reply⟩] (.error (.storage reason))

/-- **The calls of a listing of envelopes** with its result, by the rows of the reply. -/
inductive Listing (aggregateId : String) :
    List Call → Except Trail.Error (List Envelope) → Prop where
  | failed {e : Failure} :
      Listing aggregateId [⟨.selectEvents aggregateId, .error e⟩]
        (.error (trailFailure "load_events" e))
  | listed {reply : Reply} {events} (h : List.Forall₂ ShowsEvent reply.rows events) :
      Listing aggregateId [⟨.selectEvents aggregateId, .ok reply⟩] (.ok events)
  | unreadable {reply : Reply} {row reason} (hmem : row ∈ reply.rows)
      (hrow : ∀ e, ¬ ShowsEvent row e) :
      Listing aggregateId [⟨.selectEvents aggregateId, .ok reply⟩] (.error (.serialization reason))

/-! ### Conditional writes -/

section Writes

variable {f : Fabric} {step : String} {calls : List Call} {r : Except Error Unit}

theorem boundVersions_of_le_one (hf : f.version ≤ 1) :
    boundVersions f = .error (.notFound f.code) := by
  have hnot : ¬ 2 ≤ f.version := by omega
  simp [boundVersions, Catalogue.previousVersion, hnot]

theorem boundVersions_of_lt (hf : maxBigint < f.version) :
    boundVersions f = .error (.storage s!"version {f.version} exceeds BIGINT range") := by
  have h2 : 2 ≤ f.version := by
    have : 2 ≤ maxBigint := by decide
    omega
  simp [boundVersions, Catalogue.previousVersion, h2, catalogueVersion_of_lt hf]

/-- The two versions that are bound are the fabric's and the one before it. -/
theorem boundVersions_of_mem (hf : 2 ≤ f.version ∧ f.version ≤ maxBigint) :
    boundVersions f = .ok (f.version, (f.version : ℤ) - 1) := by
  have hprevious : ((f.version - 1 : ℕ) : ℤ) = (f.version : ℤ) - 1 := by omega
  rw [← hprevious]
  exact boundVersions_ok (if_pos hf.1) hf.2

/-- The calls of an update or a deletion, which differ in the statement. -/
theorem conditional_of_transcript (write : ℤ → ℤ → Statement)
    (h : Transcript (match boundVersions f with
      | .error e => .done (.error e)
      | .ok (version, previous) => writeFabric (write version previous) step f.code) calls r) :
    Conditional write step f calls r := by
  rcases Nat.lt_or_ge 1 f.version with h2 | h1
  · rcases Nat.lt_or_ge maxBigint f.version with hgt | hle
    · rw [boundVersions_of_lt hgt] at h
      obtain ⟨rfl, rfl⟩ := transcript_done_iff.mp h
      exact .beyond hgt
    · rw [boundVersions_of_mem ⟨h2, hle⟩] at h
      rcases calls_attempt h fun _ => rfl with ⟨e, rfl, rfl⟩ | ⟨reply, rest, rfl, hrest⟩
      · exact .failed ⟨h2, hle⟩
      · obtain ⟨rfl, rfl⟩ := transcript_done_iff.mp hrest
        split
        · next hn => exact .missed ⟨h2, hle⟩ hn
        · next hn => exact .written ⟨h2, hle⟩ (Nat.pos_of_ne_zero hn)
  · rw [boundVersions_of_le_one h1] at h
    obtain ⟨rfl, rfl⟩ := transcript_done_iff.mp h
    exact .first h1

end Writes

/-! ### Reads -/

theorem lookup_of_findFabric {s : Statement} {code : Code} {calls : List Call}
    {r : Except Error Fabric} (h : Transcript (findFabric s code) calls r) :
    Lookup s code calls r := by
  rcases calls_attempt h fun _ => rfl with ⟨e, rfl, rfl⟩ | ⟨reply, rest, rfl, hrest⟩
  · exact .failed
  · dsimp only at hrest
    cases hrows : reply.rows with
    | nil =>
      rw [hrows] at hrest
      obtain ⟨rfl, rfl⟩ := transcript_done_iff.mp hrest
      exact .missing hrows
    | cons row rows =>
      rw [hrows] at hrest
      obtain ⟨rfl, rfl⟩ := transcript_done_iff.mp hrest
      rcases fabricOfRow_cases row with ⟨f, hread, hrow⟩ | ⟨reason, hread, hrow⟩
      · rw [hread]
        exact .found hrows hrow
      · rw [hread]
        exact .unreadable hrows hrow

theorem listing_of_selectEvents {id : String} {calls : List Call}
    {r : Except Trail.Error (List Envelope)} (h : Transcript (selectEvents id) calls r) :
    Listing id calls r := by
  rcases calls_attempt h fun _ => rfl with ⟨e, rfl, rfl⟩ | ⟨reply, rest, rfl, hrest⟩
  · exact .failed
  · obtain ⟨rfl, rfl⟩ := transcript_done_iff.mp hrest
    rcases mapM_envelopeOfRow_cases reply.rows with ⟨events, hread, hrows⟩ |
      ⟨reason, hread, row, hrow, hnot⟩
    · rw [hread]
      exact .listed hrows
    · rw [hread]
      exact .unreadable hrow hnot

/-- **No version wraps.** Let a database with a state of any kind reply what it likes. An update or
a deletion of a fabric at version 0 or 1 finds nothing, and one beyond the range of the column fails
in the storage; neither sends a statement. Otherwise one statement is sent, which writes the version
of the fabric where the version before it is stored, and the number of rows in the reply decides the
result. A look-up gives the fabric that the row shows, at the version that is stored, and a row that
shows none is a failure of the storage, as is every row with a damaged code, status or version. A
listing gives the envelopes that the rows show, at the versions that are stored, and a row that
shows none is a failure of the reading, as is every row with a negative version. -/
theorem versions_kept (f : Fabric) (code : Code) (id : String) :
    Always (updateFabric f) (Conditional (.updateFabric f.code f.details) "update_fabric" f) ∧
    Always (deleteFabric f) (Conditional (.deleteFabric f.code) "delete_fabric" f) ∧
    (∀ version previous,
      (Statement.updateFabric f.code f.details version previous).Updates "fabrics"
        (fun time => [("name", .text f.details.name), ("measure_unit", .text f.details.measureUnit),
          ("offer_status", .text f.details.offerStatus), ("version", .int version),
          ("updated_at", time)])
        [("code", .text f.code.text), ("version", .int previous), ("status", .text "ACTIVE")] ∧
      (Statement.deleteFabric f.code version previous).Updates "fabrics"
        (fun time => [("status", .text "DELETED"), ("version", .int version), ("updated_at", time)])
        [("code", .text f.code.text), ("version", .int previous), ("status", .text "ACTIVE")]) ∧
    Always (findFabric (.selectActive code) code) (Lookup (.selectActive code) code) ∧
    Always (findFabric (.selectAny code) code) (Lookup (.selectAny code) code) ∧
    (∀ row, Damaged row → ∀ g, ¬ ShowsFabric row g) ∧
    Always (selectEvents id) (Listing id) ∧
    ∀ row : Row, ∀ n : ℤ, n < 0 → (row.lookup "aggregate_version" = some (.int n) ∨
      row.lookup "event_version" = some (.int n)) → ∀ e, ¬ ShowsEvent row e := by
  refine ⟨
    always_of_transcript fun _ _ => conditional_of_transcript (.updateFabric f.code f.details),
    always_of_transcript fun _ _ => conditional_of_transcript (.deleteFabric f.code),
    fun version previous => ⟨?_, ?_⟩,
    always_of_transcript fun _ _ => lookup_of_findFabric,
    always_of_transcript fun _ _ => lookup_of_findFabric,
    fun row hrow => hrow.not_showsFabric,
    always_of_transcript fun _ _ => listing_of_selectEvents,
    fun row n hn h => not_showsEvent_of_neg hn h⟩
  · exact ⟨_, _, Statement.read?_text _, fun _ => ⟨rfl, rfl⟩⟩
  · exact ⟨_, _, Statement.read?_text _, fun _ => ⟨rfl, rfl⟩⟩

end FabricRegistry.Database

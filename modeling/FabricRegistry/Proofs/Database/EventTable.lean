import FabricRegistry.Proofs.Database.Engine
import FabricRegistry.Proofs.Database.Reading
import FabricRegistry.Proofs.Time.Micros
import FabricRegistry.Proofs.Trail.Ledger

/-!
The table `events` against the envelopes in memory. An envelope is stored with its time in
microseconds and otherwise as it is; a row breaks a rule exactly when its envelope has the key or
the identity of another.
-/

namespace FabricRegistry.Database

open Trail (Ledger)

/-! ### Rows of envelopes -/

/-- the columns of an envelope -/
def eventRow (e : Envelope) : Row :=
  [("event_id", .uuid e.id), ("aggregate_id", .text e.aggregateId),
    ("aggregate_type", .text e.aggregateType), ("event_type", .text e.eventType),
    ("aggregate_version", .int e.aggregateVersion), ("event_version", .int e.eventVersion),
    ("payload", .json e.payload), ("timestamp", .timestamp e.time.micros),
    ("correlation_id", Statement.optional e.provenance.correlation),
    ("causation_id", Statement.optional e.provenance.causation),
    ("user_id", Statement.optional e.provenance.user)]

/-- The table `events` has the rows of envelopes, in the same order. -/
def Records (T : Tables) (events : List Envelope) : Prop :=
  Shown eventColumns eventRow (T "events") events

/-- the envelope as it is read back: its time is the one that its microseconds denote -/
def readBack (e : Envelope) : Except Trail.Error Envelope :=
  match Timestamp.ofMicros? e.time.micros with
  | some time => .ok { e with time }
  | none => .error (unreadableEvent (Row.undecodable "timestamp" "mismatched types"))

variable {T : Tables} {events batch : List Envelope} {e : Envelope} {v v' : View}

theorem timestamp_of_lookup {row : Row} {c : String} {micros : ℤ}
    (h : row.lookup c = some (.timestamp micros)) :
    row.timestamp c = match Timestamp.ofMicros? micros with
      | some time => .ok time
      | none => .error (Row.undecodable c "mismatched types") := by
  simp only [Row.timestamp, Row.required, Row.cell, h, ok_bind]
  cases Timestamp.ofMicros? micros <;> rfl

/-- Reading a row gives the envelope back but for its time. -/
theorem envelopeOfRow_eventRow (e : Envelope) : envelopeOfRow (eventRow e) = readBack e := by
  have hid : (eventRow e).uuid "event_id" = .ok e.id := Row.uuid_eq_ok_iff.mpr rfl
  have haggregate : (eventRow e).text "aggregate_id" = .ok e.aggregateId :=
    Row.text_eq_ok_iff.mpr rfl
  have haggregateType : (eventRow e).text "aggregate_type" = .ok e.aggregateType :=
    Row.text_eq_ok_iff.mpr rfl
  have htype : (eventRow e).text "event_type" = .ok e.eventType := Row.text_eq_ok_iff.mpr rfl
  have hversion : (eventRow e).int "aggregate_version" = .ok e.aggregateVersion :=
    Row.int_eq_ok_iff.mpr rfl
  have heventVersion : (eventRow e).int "event_version" = .ok e.eventVersion :=
    Row.int_eq_ok_iff.mpr rfl
  have hpayload : (eventRow e).json "payload" = .ok e.payload := Row.json_eq_ok_iff.mpr rfl
  have htime : (eventRow e).timestamp "timestamp" = _ := timestamp_of_lookup rfl
  have hcorrelation : (eventRow e).optionalText "correlation_id" = .ok e.provenance.correlation :=
    Row.optionalText_eq_ok_iff.mpr rfl
  have hcausation : (eventRow e).optionalText "causation_id" = .ok e.provenance.causation :=
    Row.optionalText_eq_ok_iff.mpr rfl
  have huser : (eventRow e).optionalText "user_id" = .ok e.provenance.user :=
    Row.optionalText_eq_ok_iff.mpr rfl
  unfold envelopeOfRow readBack
  simp only [hid, haggregate, haggregateType, htype, hversion, heventVersion,
    hpayload, htime, hcorrelation, hcausation, huser, mapError_ok, ok_bind, loadedVersion,
    loadedEventVersion, Int.natCast_nonneg, if_true, Int.toNat_natCast, pure_eq_ok]
  cases Timestamp.ofMicros? e.time.micros <;> rfl

/-- A time of whole microseconds is read back as it is. -/
theorem readBack_of_isWhole (h : e.time.IsWhole) : readBack e = .ok e := by
  unfold readBack
  rw [Timestamp.ofMicros?_micros h]

/-- A time is read back as the whole microsecond that it is stored as. -/
theorem exists_readBack (h : e.time.second.val < 60 ∨ e.time.date.year < lastYear) :
    ∃ time : Timestamp, time.IsWhole ∧ time.micros = e.time.micros ∧
      readBack e = .ok { e with time } := by
  obtain ⟨time, hwhole, hmicros⟩ := Timestamp.exists_whole h
  refine ⟨time, hwhole, hmicros, ?_⟩
  unfold readBack
  rw [← hmicros, Timestamp.ofMicros?_micros hwhole]

/-! ### The rules of the table -/

theorem sameKey_id (d e : Envelope) :
    Schema.sameKey ["event_id"] (eventRow d) (eventRow e) = decide (d.id = e.id) := by
  have hvalue : ∀ e, (eventRow e).value "event_id" = .uuid e.id := fun _ => rfl
  simp [Schema.sameKey, hvalue, Cell.equals]

theorem sameKey_key (d e : Envelope) :
    Schema.sameKey ["aggregate_id", "aggregate_version"] (eventRow d) (eventRow e) =
      decide (d.key = e.key) := by
  have hid : ∀ e, (eventRow e).value "aggregate_id" = .text e.aggregateId := fun _ => rfl
  have hversion : ∀ e, (eventRow e).value "aggregate_version" = .int e.aggregateVersion :=
    fun _ => rfl
  rw [Bool.eq_iff_iff]
  simp [Schema.sameKey, hid, hversion, Cell.equals, Envelope.key]

/-- Rows break a rule when two envelopes share their identity or their key. -/
theorem violation_events {rows : List Row} (h : Shown eventColumns eventRow rows events) :
    Schema.events.violation rows =
      if (events.map Envelope.id).Nodup ∧ (events.map Envelope.key).Nodup then none
      else some "23505" := by
  have hrequired : ∀ c ∈ Schema.events.required,
      c ∈ eventColumns ∧ ∀ e, ((eventRow e).value c).isNull = false := by
    simp only [Schema.events, List.forall_mem_cons]
    refine ⟨?_, ?_, ?_, ?_, ?_, ?_, ?_, ?_, nofun⟩ <;> exact ⟨by decide, fun _ => rfl⟩
  have hkeys : ∀ key ∈ Schema.events.keys, ∀ c ∈ key, c ∈ eventColumns := by decide
  rw [h.violation_eq hrequired (fun _ _ _ _ => rfl) hkeys]
  simp [Schema.events, sameKey_id, sameKey_key, List.Nodup, List.pairwise_map]

end FabricRegistry.Database

import FabricRegistry.Database.Catalogue
import FabricRegistry.Database.Trail
import FabricRegistry.Proofs.Command.Written

/-!
What a row is read as. A fabric or an envelope is read from a row exactly when the columns of the
row show it (`fabricOfRow_eq_ok_iff`, `envelopeOfRow_eq_ok_iff`): a code obeys the rules of codes, a
status is one of the two words, and a version is the number that is stored, which is not negative.
Every other row is a failure of the storage or of the reading.
-/

namespace FabricRegistry

theorem Code.ofString_eq_ok_iff {s : String} {code : Code} :
    Code.ofString s = .ok code ↔ s = code.text := by
  constructor
  · exact fun h => (text_of_ofString h).symm
  · rintro rfl
    exact code.ofString_text

theorem Status.ofString?_eq_some_iff {s : String} {status : Status} :
    Status.ofString? s = some status ↔ s = status.text := by
  constructor
  · intro h
    unfold ofString? at h
    split at h <;> cases h <;> rfl
  · rintro rfl
    exact status.ofString?_text

namespace Database

/-! ### Versions -/

theorem loadedVersion_eq_ok_iff {stored : ℤ} {version : ℕ} :
    loadedVersion stored = .ok version ↔ stored = version := by
  unfold loadedVersion
  split
  · rw [Except.ok.injEq]
    omega
  · simp only [reduceCtorEq, false_iff]
    omega

theorem loadedEventVersion_eq_ok_iff {stored : ℤ} {version : ℕ} :
    loadedEventVersion stored = .ok version ↔ stored = version := by
  unfold loadedEventVersion
  split
  · rw [Except.ok.injEq]
    omega
  · simp only [reduceCtorEq, false_iff]
    omega

/-! ### Columns -/

namespace Row

variable {row : Row} {column : String}

theorem required_eq_ok_iff {α : Type} {read : Cell → Option α} {a : α} (hnull : read .null = none) :
    row.required column read = .ok a ↔ ∃ c, row.lookup column = some c ∧ read c = some a := by
  unfold required cell
  cases row.lookup column with
  | none => simp
  | some c =>
    simp only [ok_bind, Option.some.injEq, exists_eq_left']
    cases c with
    | null => simp [hnull]
    | _ => dsimp only; split <;> simp_all

theorem required_eq_ok_iff_of_read {α : Type} {read : Cell → Option α} {a : α} {value : Cell}
    (hnull : read .null = none) (hread : ∀ c, read c = some a ↔ c = value) :
    row.required column read = .ok a ↔ row.lookup column = some value := by
  rw [required_eq_ok_iff hnull]
  constructor
  · rintro ⟨c, hc, ha⟩
    rw [hc, (hread c).mp ha]
  · exact fun h => ⟨value, h, (hread value).mpr rfl⟩

theorem text_eq_ok_iff {s : String} :
    row.text column = .ok s ↔ row.lookup column = some (.text s) :=
  required_eq_ok_iff_of_read rfl fun c => by cases c <;> simp

theorem int_eq_ok_iff {n : ℤ} : row.int column = .ok n ↔ row.lookup column = some (.int n) :=
  required_eq_ok_iff_of_read rfl fun c => by cases c <;> simp

theorem uuid_eq_ok_iff {id : EventId} :
    row.uuid column = .ok id ↔ row.lookup column = some (.uuid id) :=
  required_eq_ok_iff_of_read rfl fun c => by cases c <;> simp

theorem json_eq_ok_iff {v : Json.Value} :
    row.json column = .ok v ↔ row.lookup column = some (.json v) :=
  required_eq_ok_iff_of_read rfl fun c => by cases c <;> simp

theorem timestamp_eq_ok_iff {time : Timestamp} : row.timestamp column = .ok time ↔
    ∃ micros, row.lookup column = some (.timestamp micros) ∧
      Timestamp.ofMicros? micros = some time := by
  unfold timestamp
  rw [required_eq_ok_iff rfl]
  constructor
  · rintro ⟨c, hc, ht⟩
    cases c with
    | timestamp micros => exact ⟨micros, hc, ht⟩
    | _ => cases ht
  · rintro ⟨micros, hc, ht⟩
    exact ⟨_, hc, ht⟩

theorem optionalText_eq_ok_iff {text : Option String} :
    row.optionalText column = .ok text ↔
      row.lookup column = some (Statement.optional text) := by
  unfold optionalText cell
  cases hc : row.lookup column with
  | none => simp
  | some c =>
    simp only [ok_bind, Option.some.injEq]
    cases c with
    | null => cases text <;> simp [Statement.optional]
    | _ =>
      simp only [map_eq_ok_iff, text_eq_ok_iff, hc, Option.some.injEq]
      cases text <;> simp [Statement.optional]

end Row

/-! ### Fabrics -/

/-- **The columns of a row show a fabric**, which has nothing pending. -/
structure ShowsFabric (row : Row) (f : Fabric) : Prop where
  code : row.lookup "code" = some (.text f.code.text)
  name : row.lookup "name" = some (.text f.details.name)
  measureUnit : row.lookup "measure_unit" = some (.text f.details.measureUnit)
  offerStatus : row.lookup "offer_status" = some (.text f.details.offerStatus)
  status : row.lookup "status" = some (.text f.status.text)
  version : row.lookup "version" = some (.int f.version)
  pending : f.pending = []

variable {row : Row} {f : Fabric} {e : Envelope}

/-- **A fabric is read from a row that shows it.** -/
theorem fabricOfRow_eq_ok_iff : fabricOfRow row = .ok f ↔ ShowsFabric row f := by
  unfold fabricOfRow
  simp only [bind_eq_ok_iff, mapError_eq_ok_iff, Row.text_eq_ok_iff, Row.int_eq_ok_iff,
    Code.ofString_eq_ok_iff]
  constructor
  · rintro ⟨_, hcode, word, hstatus, _, hversion, code, rfl, h⟩
    -- the rest of the chain stands behind the match on the word
    cases hword : Status.ofString? word with
    | none => simp [hword] at h
    | some status =>
      simp only [hword, ok_bind, bind_eq_ok_iff, mapError_eq_ok_iff, Row.text_eq_ok_iff,
        loadedVersion_eq_ok_iff, pure_eq_ok, Except.ok.injEq] at h
      obtain ⟨name, hname, unit, hunit, offer, hoffer, version, rfl, rfl⟩ := h
      exact ⟨hcode, hname, hunit, hoffer, Status.ofString?_eq_some_iff.mp hword ▸ hstatus, hversion,
        rfl⟩
  · obtain ⟨code, details, status, version, pending⟩ := f
    rintro ⟨hcode, hname, hunit, hoffer, hstatus, hversion, hpending⟩
    cases hpending
    refine ⟨_, hcode, _, hstatus, _, hversion, code, rfl, ?_⟩
    simp only [Status.ofString?_text, ok_bind, bind_eq_ok_iff, mapError_eq_ok_iff,
      Row.text_eq_ok_iff, loadedVersion_eq_ok_iff, pure_eq_ok, Except.ok.injEq]
    exact ⟨_, hname, _, hunit, _, hoffer, version, rfl, rfl⟩

/-- A row that shows no fabric is a failure of the storage. -/
theorem failsWith_fabricOfRow (row : Row) :
    FailsWith (fun e => ∃ reason, e = .storage reason) (fabricOfRow row) := by
  have hunreadable : ∀ reason, ∃ reason', unreadableFabric reason = .storage reason' :=
    fun reason => ⟨_, rfl⟩
  unfold fabricOfRow
  refine .bind (.mapError hunreadable) fun code => ?_
  refine .bind (.mapError hunreadable) fun status => ?_
  refine .bind (.mapError hunreadable) fun version => ?_
  refine .bind (.mapError fun _ => ⟨_, rfl⟩) fun code => ?_
  cases Status.ofString? status with
  | none => exact .error ⟨_, rfl⟩
  | some status =>
    refine .bind (.ok status) fun status => ?_
    refine .bind (.mapError hunreadable) fun name => ?_
    refine .bind (.mapError hunreadable) fun measureUnit => ?_
    refine .bind (.mapError hunreadable) fun offerStatus => ?_
    exact .bind (.mapError fun reason => ⟨reason, rfl⟩) fun version => .ok _

/-- Reading a row gives a fabric that it shows, or a failure of the storage when it shows none. -/
theorem fabricOfRow_cases (row : Row) :
    (∃ f, fabricOfRow row = .ok f ∧ ShowsFabric row f) ∨
      ∃ reason, fabricOfRow row = .error (.storage reason) ∧ ∀ f, ¬ ShowsFabric row f := by
  cases h : fabricOfRow row with
  | ok f => exact Or.inl ⟨f, rfl, fabricOfRow_eq_ok_iff.mp h⟩
  | error e =>
    obtain ⟨reason, rfl⟩ := failsWith_fabricOfRow row e h
    refine Or.inr ⟨reason, rfl, fun f hf => ?_⟩
    cases h.symm.trans (fabricOfRow_eq_ok_iff.mpr hf)

/-- **A row that no fabric has**: what stands for its code is none, its status is neither of the two
words, or its version is negative. -/
inductive Damaged (row : Row) : Prop where
  | code {s : String} (h : row.lookup "code" = some (.text s)) (hs : ¬ IsCodeText s)
  | status {s : String} (h : row.lookup "status" = some (.text s)) (hactive : s ≠ "ACTIVE")
      (hdeleted : s ≠ "DELETED")
  | version {n : ℤ} (h : row.lookup "version" = some (.int n)) (hn : n < 0)

theorem Damaged.not_showsFabric (h : Damaged row) (f : Fabric) : ¬ ShowsFabric row f := by
  intro hf
  cases h with
  | code h hs =>
    cases h.symm.trans hf.code
    exact hs f.code.isCodeText
  | status h hactive hdeleted =>
    cases h.symm.trans hf.status
    cases hs : f.status with
    | active => exact hactive (hs ▸ rfl)
    | deleted => exact hdeleted (hs ▸ rfl)
  | version h hn =>
    cases h.symm.trans hf.version
    omega

/-! ### Envelopes -/

/-- **The columns of a row show an envelope**, its time in microseconds. -/
structure ShowsEvent (row : Row) (e : Envelope) : Prop where
  id : row.lookup "event_id" = some (.uuid e.id)
  eventType : row.lookup "event_type" = some (.text e.eventType)
  aggregateId : row.lookup "aggregate_id" = some (.text e.aggregateId)
  aggregateType : row.lookup "aggregate_type" = some (.text e.aggregateType)
  aggregateVersion : row.lookup "aggregate_version" = some (.int e.aggregateVersion)
  eventVersion : row.lookup "event_version" = some (.int e.eventVersion)
  time : ∃ micros, row.lookup "timestamp" = some (.timestamp micros) ∧
    Timestamp.ofMicros? micros = some e.time
  correlation : row.lookup "correlation_id" = some (Statement.optional e.provenance.correlation)
  causation : row.lookup "causation_id" = some (Statement.optional e.provenance.causation)
  user : row.lookup "user_id" = some (Statement.optional e.provenance.user)
  payload : row.lookup "payload" = some (.json e.payload)

/-- **An envelope is read from a row that shows it.** -/
theorem envelopeOfRow_eq_ok_iff : envelopeOfRow row = .ok e ↔ ShowsEvent row e := by
  unfold envelopeOfRow
  simp only [bind_eq_ok_iff, mapError_eq_ok_iff, Row.text_eq_ok_iff, Row.int_eq_ok_iff,
    Row.uuid_eq_ok_iff, Row.json_eq_ok_iff, Row.timestamp_eq_ok_iff, Row.optionalText_eq_ok_iff,
    loadedVersion_eq_ok_iff, loadedEventVersion_eq_ok_iff, pure_eq_ok, Except.ok.injEq]
  constructor
  · rintro ⟨_, haggregateVersion, _, heventVersion, id, hid, eventType, heventType, aggregateId,
      haggregateId, aggregateType, haggregateType, aggregateVersion, rfl, eventVersion, rfl, time,
      htime, correlation, hcorrelation, causation, hcausation, user, huser, payload, hpayload, rfl⟩
    exact ⟨hid, heventType, haggregateId, haggregateType, haggregateVersion, heventVersion, htime,
      hcorrelation, hcausation, huser, hpayload⟩
  · intro h
    exact ⟨_, h.aggregateVersion, _, h.eventVersion, _, h.id, _, h.eventType, _, h.aggregateId, _,
      h.aggregateType, _, rfl, _, rfl, _, h.time, _, h.correlation, _, h.causation, _, h.user, _,
      h.payload, rfl⟩

/-- A row with a negative version shows no envelope. -/
theorem not_showsEvent_of_neg {n : ℤ} (hn : n < 0)
    (h : row.lookup "aggregate_version" = some (.int n) ∨
      row.lookup "event_version" = some (.int n)) (e : Envelope) : ¬ ShowsEvent row e := by
  intro he
  rcases h with h | h
  · cases h.symm.trans he.aggregateVersion
    omega
  · cases h.symm.trans he.eventVersion
    omega

/-- A row that shows no envelope is a failure of the reading. -/
theorem failsWith_envelopeOfRow (row : Row) :
    FailsWith (fun e => ∃ reason, e = .serialization reason) (envelopeOfRow row) := by
  have hunreadable : ∀ reason, ∃ reason', unreadableEvent reason = .serialization reason' :=
    fun reason => ⟨_, rfl⟩
  unfold envelopeOfRow
  refine .bind (.mapError hunreadable) fun aggregateVersion => ?_
  refine .bind (.mapError hunreadable) fun eventVersion => ?_
  refine .bind (.mapError hunreadable) fun id => ?_
  refine .bind (.mapError hunreadable) fun eventType => ?_
  refine .bind (.mapError hunreadable) fun aggregateId => ?_
  refine .bind (.mapError hunreadable) fun aggregateType => ?_
  refine .bind (.mapError fun reason => ⟨reason, rfl⟩) fun aggregateVersion => ?_
  refine .bind (.mapError fun reason => ⟨reason, rfl⟩) fun eventVersion => ?_
  refine .bind (.mapError hunreadable) fun time => ?_
  refine .bind (.mapError hunreadable) fun correlation => ?_
  refine .bind (.mapError hunreadable) fun causation => ?_
  refine .bind (.mapError hunreadable) fun user => ?_
  exact .bind (.mapError hunreadable) fun payload => .ok _

/-- Reading rows gives the envelopes that they show, or a failure of the reading when a row shows
none. -/
theorem mapM_envelopeOfRow_cases (rows : List Row) :
    (∃ events, rows.mapM envelopeOfRow = .ok events ∧ List.Forall₂ ShowsEvent rows events) ∨
      ∃ reason, rows.mapM envelopeOfRow = .error (.serialization reason) ∧
        ∃ row ∈ rows, ∀ e, ¬ ShowsEvent row e := by
  induction rows with
  | nil => exact Or.inl ⟨[], rfl, .nil⟩
  | cons row rows ih =>
    rw [List.mapM_cons]
    cases h : envelopeOfRow row with
    | error err =>
      obtain ⟨reason, rfl⟩ := failsWith_envelopeOfRow row err h
      refine Or.inr ⟨reason, rfl, row, List.mem_cons_self, fun e he => ?_⟩
      cases h.symm.trans (envelopeOfRow_eq_ok_iff.mpr he)
    | ok e =>
      rcases ih with ⟨events, hread, hrows⟩ | ⟨reason, hread, r, hr, hnot⟩
      · rw [hread]
        exact Or.inl ⟨e :: events, rfl, .cons (envelopeOfRow_eq_ok_iff.mp h) hrows⟩
      · rw [hread]
        exact Or.inr ⟨reason, rfl, r, List.mem_cons_of_mem row hr, hnot⟩

end Database

end FabricRegistry

import FabricRegistry.Proofs.Database.EventTable

/-!
The event store in a database against the ledger in memory. A batch is inserted row by row within a
transaction: either every row finds its key free and the transaction takes effect, or one does not
and nothing is left of it, which is what the ledger decides in advance. What the statements of one
request do carries over to sequences of requests by induction (`trail_follows`).

Times are kept to the microsecond only. Envelopes with finer times are recorded alike but read back
with another time (`trail_cuts_jute`).
-/

namespace FabricRegistry.Database

open Trail (Ledger Request)
open Trail.Ledger (Recordable)

variable {T T' : Tables} {events batch : List Envelope} {e : Envelope} {l : Ledger} {id : String}

/-! ### Recording -/

/-- The versions of an envelope are stored. -/
def Fits (e : Envelope) : Prop := e.aggregateVersion ≤ maxBigint ∧ e.eventVersion ≤ maxInteger

instance : DecidablePred Fits := fun _ => inferInstanceAs (Decidable (_ ∧ _))

/-- the values that the columns of an envelope are bound to -/
def boundEvent (e : Envelope) : EventRow where
  id := e.id
  aggregateId := e.aggregateId
  aggregateType := e.aggregateType
  eventType := e.eventType
  aggregateVersion := e.aggregateVersion
  eventVersion := e.eventVersion
  payload := e.payload
  micros := e.time.micros
  provenance := e.provenance

theorem rowOfEnvelope_of_fits (h : Fits e) : rowOfEnvelope e = .ok (boundEvent e) := by
  simp [rowOfEnvelope, storedVersion, storedEventVersion, h.1, h.2, boundEvent]

/-- What the insertion of an envelope writes. -/
theorem written_insertEvent (h : Records T events) (e : Envelope) (time : Cell) :
    ∃ rows, (Statement.insertEvent (boundEvent e)).query.written?
        (Statement.insertEvent (boundEvent e)).params time T = some ("events", rows, 1) ∧
      Shown eventColumns eventRow rows (events ++ [e]) := by
  refine ⟨_, rfl, h.concat ?_⟩
  simp [Row.project, eventColumns, eventRow, Row.value_onto, given, Statement.params, boundEvent,
    Operand.value, List.lookup_cons]

/-- The insertions of a batch all take place when every key is free, and none stays otherwise. -/
theorem ensures_insertEvents (h : Records T' events) (hfits : ∀ e ∈ batch, Fits e)
    (hids : ((events ++ batch).map Envelope.id).Nodup) (hkeys : (events.map Envelope.key).Nodup) :
    Ensures (fun r v =>
      (r = .ok () ∧ ((events ++ batch).map Envelope.key).Nodup ∧
        ∃ T'', v = ⟨T, .active T''⟩ ∧ Records T'' (events ++ batch)) ∨
      ((∃ err, r = .error err) ∧ ¬ ((events ++ batch).map Envelope.key).Nodup ∧ v.committed = T))
      (insertEvents batch) ⟨T, .active T'⟩ := by
  induction batch generalizing events T' with
  | nil =>
    rw [List.append_nil]
    exact Or.inl ⟨rfl, hkeys, T', rfl, h⟩
  | cons e rest ih =>
    unfold insertEvents
    rw [rowOfEnvelope_of_fits (hfits e (by simp))]
    refine (ensures_bind _ _ _).mpr (ensures_execute fun reply v' hr => ?_)
    have hsplit : events ++ e :: rest = events ++ [e] ++ rest := by simp
    rw [hsplit] at hids ⊢
    have hidsNow : ((events ++ [e]).map Envelope.id).Nodup := by
      rw [List.map_append] at hids
      exact (List.nodup_append.mp hids).1
    obtain ⟨rows, hrows, hcase⟩ := answers_shown rfl (written_insertEvent h e) hr
    have hviolation : (Schema.named "events").violation rows = _ := violation_events hrows
    rcases hcase with ⟨hnone, rfl, rfl⟩ | ⟨state, message, hsome, rfl, rfl⟩
    · rw [hviolation] at hnone
      have hkeysNow : ((events ++ [e]).map Envelope.key).Nodup := by
        by_contra hnot
        rw [if_neg (fun h => hnot h.2)] at hnone
        cases hnone
      have hrecords : Records (Function.update T' "events" rows) (events ++ [e]) := by
        simpa [Records] using hrows
      exact ih hrecords (fun d hd => hfits d (List.mem_cons_of_mem e hd)) hids hkeysNow
    · rw [hviolation] at hsome
      have hnot : ¬ ((events ++ [e]).map Envelope.key).Nodup := by
        intro hnodup
        rw [if_pos ⟨hidsNow, hnodup⟩] at hsome
        cases hsome
      refine Or.inr ⟨⟨_, rfl⟩, ?_, rfl⟩
      rw [List.map_append]
      exact fun hnodup => hnot (List.nodup_append.mp hnodup).1

theorem validateBatch_eq_ok_iff :
    validateBatch batch = .ok () ↔ ∀ e ∈ batch, e.validate = .ok () := by
  induction batch with
  | nil => simp [validateBatch]
  | cons e rest ih => cases hv : e.validate <;> simp [validateBatch, hv, ih]

/-- A batch is recorded whole when it is recordable, and not at all otherwise. -/
theorem ensures_appendEvents (h : Records T events) (hfits : ∀ e ∈ batch, Fits e)
    (hids : ((events ++ batch).map Envelope.id).Nodup) (hkeys : (events.map Envelope.key).Nodup) :
    Ensures (fun r v =>
      (r = .ok () ∧ Recordable (events.map Envelope.key) batch ∧
        ∃ T', v = ⟨T', .idle⟩ ∧ Records T' (events ++ batch)) ∨
      ((∃ err, r = .error err) ∧ ¬ Recordable (events.map Envelope.key) batch ∧ v = ⟨T, .idle⟩))
      (appendEvents batch) ⟨T, .idle⟩ := by
  unfold appendEvents
  split
  · next hempty =>
    obtain rfl := List.isEmpty_iff.mp hempty
    exact Or.inl ⟨rfl, ⟨by simp, by simpa using hkeys⟩, T, rfl, by simpa using h⟩
  · cases hvalid : validateBatch batch with
    | error err =>
      refine Or.inr ⟨⟨err, rfl⟩, fun hrecordable => ?_, rfl⟩
      rw [validateBatch_eq_ok_iff.mpr hrecordable.valid] at hvalid
      cases hvalid
    | ok _ =>
      refine (ensures_bind _ _ _).mpr (ensures_transaction rfl ?_)
      refine (ensures_insertEvents h hfits hids hkeys).imp fun r v hinsert => ?_
      rcases hinsert with ⟨rfl, hnodup, T', rfl, hT'⟩ | ⟨⟨err, rfl⟩, hnot, hv⟩
      · have hrecordable : Recordable (events.map Envelope.key) batch :=
          ⟨validateBatch_eq_ok_iff.mp hvalid, by simpa using hnodup⟩
        exact ⟨T', rfl, Or.inl ⟨rfl, hrecordable, T', rfl, hT'⟩⟩
      · refine ⟨hv, Or.inr ⟨⟨err, rfl⟩, fun hrecordable => hnot ?_, rfl⟩⟩
        simpa using hrecordable.keys_nodup

/-! ### Reading -/

/-- the place of a row among the rows of its aggregate -/
def versionRank (r : Row) : ℤ := (r.value "aggregate_version").rank

theorem versionRank_eventRow (e : Envelope) : versionRank (eventRow e) = e.aggregateVersion := rfl

theorem versionRank_project (r : Row) : versionRank (r.project eventColumns) = versionRank r := by
  rw [versionRank, Row.value_project r (by decide), versionRank]

theorem meets_aggregate (e : Envelope) (time : Cell) :
    meets (Statement.selectEvents id).params time [("aggregate_id", .parameter 1)] (eventRow e) =
      decide (e.aggregateId = id) := by
  have hvalue : (eventRow e).value "aggregate_id" = .text e.aggregateId := rfl
  simp [meets, Statement.params, Operand.value, hvalue, Cell.equals]

/-- Rows with versions of their own are in the order of versions in one way only. -/
theorem eq_of_versions {rows rows' : List Row} (hp : rows.Perm rows')
    (hne : rows'.Pairwise fun r r' => versionRank r ≠ versionRank r')
    (h : rows.Pairwise fun r r' => versionRank r ≤ versionRank r')
    (h' : rows'.Pairwise fun r r' => versionRank r ≤ versionRank r') : rows = rows' := by
  have hne' := (hp.pairwise_iff fun h => Ne.symm h).mpr hne
  have hlt : rows.Pairwise fun r r' => versionRank r < versionRank r' :=
    (h.and hne').imp fun h => lt_of_le_of_ne h.1 h.2
  have hlt' : rows'.Pairwise fun r r' => versionRank r < versionRank r' :=
    (h'.and hne).imp fun h => lt_of_le_of_ne h.1 h.2
  exact hp.eq_of_pairwise (fun _ _ _ _ hab hba => absurd hab hba.asymm) hlt hlt'

/-- No version of an aggregate occurs twice. -/
theorem versions_ne (hkeys : (events.map Envelope.key).Nodup) (id : String) :
    ((events.filter fun e => e.aggregateId = id).map eventRow).Pairwise
      fun r r' => versionRank r ≠ versionRank r' := by
  refine List.pairwise_map.mpr ((Trail.Ledger.versions_ne_of_nodup hkeys id).imp fun hne => ?_)
  rw [versionRank_eventRow, versionRank_eventRow]
  exact fun h => hne (Int.ofNat_inj.mp h)

/-- Rows that are found in the order of versions are the rows of the envelopes that are read. -/
theorem map_project_eventsOf {found : List Row} (h : Records T l.events)
    (hkeys : (l.events.map Envelope.key).Nodup) {time : Cell}
    (hp : found.Perm ((T "events").filter (meets (Statement.selectEvents id).params time
      [("aggregate_id", .parameter 1)])))
    (ho : Ordered (some "aggregate_version") found) :
    found.map (Row.project eventColumns) = (l.eventsOf id).map eventRow := by
  have hfilter : Shown eventColumns eventRow
      ((T "events").filter (meets (Statement.selectEvents id).params time
        [("aggregate_id", .parameter 1)]))
      (l.events.filter fun e => meets (Statement.selectEvents id).params time
        [("aggregate_id", .parameter 1)] (eventRow e)) := Shown.filter h (by decide)
  simp only [meets_aggregate] at hfilter
  have hfound : (found.map (Row.project eventColumns)).Perm
      ((l.events.filter fun e => e.aggregateId = id).map eventRow) := by
    rw [← hfilter]
    exact hp.map _
  have hread := (l.eventsOf_perm id).map eventRow
  have hfoundLe : (found.map (Row.project eventColumns)).Pairwise
      fun r r' => versionRank r ≤ versionRank r' := by
    refine List.pairwise_map.mpr ((ho _ rfl).imp fun hle => ?_)
    rw [versionRank_project, versionRank_project]
    exact hle
  have hreadLe : ((l.eventsOf id).map eventRow).Pairwise
      fun r r' => versionRank r ≤ versionRank r' := by
    refine List.pairwise_map.mpr ((l.eventsOf_sorted id).imp fun hle => ?_)
    rw [versionRank_eventRow, versionRank_eventRow]
    exact Int.ofNat_le.mpr hle
  exact eq_of_versions (hfound.trans hread.symm)
    ((hread.pairwise_iff fun h => Ne.symm h).mpr (versions_ne hkeys id)) hfoundLe hreadLe

theorem ensures_selectEvents (h : Records T l.events) (hkeys : (l.events.map Envelope.key).Nodup)
    (id : String) :
    Ensures (fun r v => r = (l.eventsOf id).mapM readBack ∧ v = ⟨T, .idle⟩) (selectEvents id)
      ⟨T, .idle⟩ := by
  refine (ensures_bind _ _ _).mpr (ensures_execute fun reply v' hr => ?_)
  obtain ⟨rfl, micros, found, n, rfl, hp, ho⟩ := answers_select rfl hr
  refine ⟨?_, rfl⟩
  change (found.map (Row.project eventColumns)).mapM envelopeOfRow = _
  rw [map_project_eventsOf h hkeys hp ho, List.mapM_map]
  exact congrArg (List.mapM · _) (funext envelopeOfRow_eventRow)

/-! ### Sequences of requests -/

/-- A batch goes as it goes in memory: it is recorded in both, or rejected by both and leaves both
as they are. -/
def AppendFollows (l : Ledger) (batch : List Envelope) (v : View) (r : Except Trail.Error Unit)
    (v' : View) : Prop :=
  (r = .ok () ∧ (l.append batch).1 = .ok () ∧
      ∃ T, v' = ⟨T, .idle⟩ ∧ Records T (l.append batch).2.events) ∨
    (r ≠ .ok () ∧ (l.append batch).1 ≠ .ok () ∧ (l.append batch).2 = l ∧ v' = v)

theorem ensures_append (hl : l.Keyed) (h : Records T l.events) (hfits : ∀ e ∈ batch, Fits e)
    (hids : ((l.events ++ batch).map Envelope.id).Nodup) :
    Ensures (AppendFollows l batch ⟨T, .idle⟩) (trail (.append batch)) ⟨T, .idle⟩ := by
  refine (ensures_appendEvents h hfits hids (hl.keys_eq ▸ hl.keys_nodup)).imp fun r v hr => ?_
  rw [← hl.keys_eq] at hr
  rcases hr with ⟨rfl, hrecordable, hrecords⟩ | ⟨⟨err, rfl⟩, hnot, rfl⟩
  · have happend := Trail.Ledger.append_of_recordable hrecordable
    exact Or.inl ⟨rfl, by rw [happend], by rw [happend]; exact hrecords⟩
  · obtain ⟨err', happend⟩ := Trail.Ledger.append_of_not_recordable hl.keys_nodup hnot
    exact Or.inr ⟨nofun, by rw [happend]; exact nofun, by rw [happend], rfl⟩

/-- the ledger after requests to an empty one -/
def ledgerAfter (past : List Request) : Ledger := past.foldl (fun l q => (l.reply q).2) .empty

theorem ledgerAfter_snoc (past : List Request) (q : Request) :
    ledgerAfter (past ++ [q]) = ((ledgerAfter past).reply q).2 := by
  simp [ledgerAfter]

/-- the server after requests -/
def Server.recorded {σ : Type} (db : Server σ) (past : List Request) (st : σ) : σ :=
  past.foldl (fun st q => (db.run (trail q) st).2) st

theorem Server.recorded_snoc {σ : Type} (db : Server σ) (past : List Request) (q : Request)
    (st : σ) : db.recorded (past ++ [q]) st = (db.run (trail q) (db.recorded past st)).2 := by
  simp [Server.recorded]

/-- the envelopes that a request brings -/
def brought : Request → List Envelope
  | .append batch => batch
  | .eventsOf _ => []

/-- The envelopes that requests bring have versions that are stored and an identity of their own. -/
structure Proper (past : List Request) : Prop where
  fits : ∀ e ∈ past.flatMap brought, Fits e
  ids_nodup : ((past.flatMap brought).map Envelope.id).Nodup

section Sequences

variable {σ : Type} {db : Server σ} {st : σ} {past : List Request} {q : Request}

theorem Proper.of_append {later : List Request} (h : Proper (past ++ later)) : Proper past := by
  obtain ⟨hfits, hids⟩ := h
  rw [List.flatMap_append] at hfits hids
  rw [List.map_append] at hids
  exact ⟨fun e he => hfits e (List.mem_append_left _ he), (List.nodup_append.mp hids).1⟩

theorem keyed_ledgerAfter (past : List Request) : (ledgerAfter past).Keyed := by
  induction past using List.reverseRecOn with
  | nil => exact Trail.Ledger.keyed_empty
  | append_singleton past q ih =>
    rw [ledgerAfter_snoc]
    cases q with
    | append batch => exact ih.append batch
    | eventsOf id => exact ih

theorem events_sublist (past : List Request) :
    (ledgerAfter past).events.Sublist (past.flatMap brought) := by
  induction past using List.reverseRecOn with
  | nil => exact .slnil
  | append_singleton past q ih =>
    rw [ledgerAfter_snoc, List.flatMap_append, List.flatMap_singleton]
    cases q with
    | append batch =>
      exact (Trail.Ledger.events_append_sublist (keyed_ledgerAfter past) batch).trans
        (ih.append_right batch)
    | eventsOf id =>
      rw [brought, List.append_nil]
      exact ih

/-- One more batch, where both have the same envelopes so far. -/
theorem appendFollows_of_records (hf : db.Faithful) (hq : Proper (past ++ [.append batch]))
    (h : ∃ T, db.view (db.recorded past st) = ⟨T, .idle⟩ ∧ Records T (ledgerAfter past).events) :
    AppendFollows (ledgerAfter past) batch (db.view (db.recorded past st))
      (db.run (trail (.append batch)) (db.recorded past st)).1
      (db.view (db.run (trail (.append batch)) (db.recorded past st)).2) := by
  obtain ⟨T, hview, hrecords⟩ := h
  obtain ⟨hfits, hids⟩ := hq
  rw [List.flatMap_append, List.flatMap_singleton, brought] at hfits hids
  have hnodup : (((ledgerAfter past).events ++ batch).map Envelope.id).Nodup :=
    hids.sublist (((events_sublist past).append_right batch).map _)
  have hensures := ensures_append (keyed_ledgerAfter past) hrecords
    (fun e he => hfits e (List.mem_append_right _ he)) hnodup
  rw [hview]
  exact hf.run (trail (.append batch)) (hview ▸ hensures)

theorem eventsOf_of_records (hf : db.Faithful)
    (h : ∃ T, db.view (db.recorded past st) = ⟨T, .idle⟩ ∧ Records T (ledgerAfter past).events)
    (id : String) :
    (db.run (trail (.eventsOf id)) (db.recorded past st)).1 =
        ((ledgerAfter past).eventsOf id).mapM readBack ∧
      db.view (db.run (trail (.eventsOf id)) (db.recorded past st)).2 =
        db.view (db.recorded past st) := by
  obtain ⟨T, hview, hrecords⟩ := h
  have hl := keyed_ledgerAfter past
  have hensures := ensures_selectEvents hrecords (hl.keys_eq ▸ hl.keys_nodup) id
  rw [← hview] at hensures
  exact hf.run (trail (.eventsOf id)) hensures

theorem records_recorded (hf : db.Faithful) (hidle : (db.view st).work = .idle)
    (hempty : (db.view st).committed "events" = []) (hp : Proper past) :
    ∃ T, db.view (db.recorded past st) = ⟨T, .idle⟩ ∧ Records T (ledgerAfter past).events := by
  induction past using List.reverseRecOn with
  | nil =>
    refine ⟨(db.view st).committed, ?_, by simp [Records, Shown, hempty, ledgerAfter, Ledger.empty]⟩
    rw [← hidle]
    rfl
  | append_singleton past q ih =>
    have hpast := ih hp.of_append
    rw [Server.recorded_snoc, ledgerAfter_snoc]
    cases q with
    | append batch =>
      rcases appendFollows_of_records hf hp hpast with ⟨-, -, hnext⟩ | ⟨-, -, hl, hv⟩
      · exact hnext
      · rw [hv, show ((ledgerAfter past).reply (.append batch)).2 = ledgerAfter past from hl]
        exact hpast
    | eventsOf id =>
      rw [(eventsOf_of_records hf hpast id).2]
      exact hpast

/-- the same envelope with its time as the whole microsecond that it is stored as -/
def IsCutOf (d e : Envelope) : Prop :=
  e.time.IsWhole ∧ e.time.micros = d.time.micros ∧ e = { d with time := e.time }

theorem exists_mapM_readBack
    (h : ∀ e ∈ events, e.time.second.val < 60 ∨ e.time.date.year < lastYear) :
    ∃ cut, events.mapM readBack = .ok cut ∧ List.Forall₂ IsCutOf events cut := by
  induction events with
  | nil => exact ⟨[], rfl, .nil⟩
  | cons e rest ih =>
    obtain ⟨time, hwhole, hmicros, hread⟩ := exists_readBack (h e (by simp))
    obtain ⟨cut, hrest, hcut⟩ := ih fun d hd => h d (List.mem_cons_of_mem e hd)
    exact ⟨{ e with time } :: cut, by simp [List.mapM_cons, hread, hrest],
      .cons ⟨hwhole, hmicros, rfl⟩ hcut⟩

theorem mapM_readBack_of_isWhole (h : ∀ e ∈ events, e.time.IsWhole) :
    events.mapM readBack = .ok events := by
  induction events with
  | nil => rfl
  | cons e rest ih =>
    have hrest := ih fun d hd => h d (List.mem_cons_of_mem e hd)
    simp [List.mapM_cons, readBack_of_isWhole (h e (by simp)), hrest]

/-- A request goes as it goes in memory. A batch is accepted by both or by none, and one that is
rejected leaves both as they are. The envelopes of an aggregate are read alike but for their times:
these are cut to whole microseconds outside leap seconds, and kept where they are whole. Only the
leap second at the end of the calendar cannot be read. -/
def TrailFollows (l : Ledger) (v : View) : (q : Request) → q.Reply → View → Prop
  | .append batch, r, v' =>
    (r = .ok () ↔ (l.append batch).1 = .ok ()) ∧ (r ≠ .ok () → (l.append batch).2 = l ∧ v' = v)
  | .eventsOf id, r, _ =>
    r = (l.eventsOf id).mapM readBack ∧
      ((∀ e ∈ l.eventsOf id, e.time.second.val < 60 ∨ e.time.date.year < lastYear) →
        ∃ cut, r = .ok cut ∧ List.Forall₂ IsCutOf (l.eventsOf id) cut) ∧
      ((∀ e ∈ l.eventsOf id, e.time.IsWhole) → r = .ok (l.eventsOf id))

/-- **The database records what memory records.** A server that answers as the texts of the
statements say, its table empty, is asked for one request after the other, and so is the ledger in
memory. No two envelopes of the requests have the same identity, and their versions are stored.
Then every request goes alike, and after every request both have the same envelopes. -/
theorem trail_follows (hf : db.Faithful) (hidle : (db.view st).work = .idle)
    (hempty : (db.view st).committed "events" = []) (past : List Request) (q : Request)
    (hq : Proper (past ++ [q])) :
    TrailFollows (ledgerAfter past) (db.view (db.recorded past st)) q
        (db.run (trail q) (db.recorded past st)).1 (db.view (db.recorded (past ++ [q]) st)) ∧
      ∃ T, db.view (db.recorded (past ++ [q]) st) = ⟨T, .idle⟩ ∧
        Records T (ledgerAfter (past ++ [q])).events := by
  refine ⟨?_, records_recorded hf hidle hempty hq⟩
  have hpast := records_recorded hf hidle hempty hq.of_append
  rw [Server.recorded_snoc]
  cases q with
  | append batch =>
    rcases appendFollows_of_records hf hq hpast with ⟨hr, hl, -⟩ | ⟨hr, hl, hkeeps⟩
    · exact ⟨iff_of_true hr hl, fun hnot => absurd hr hnot⟩
    · exact ⟨iff_of_false hr hl, fun _ => hkeeps⟩
  | eventsOf id =>
    have hread := (eventsOf_of_records hf hpast id).1
    refine ⟨hread, fun hseconds => ?_, fun hwhole => ?_⟩
    · obtain ⟨cut, hcut, hall⟩ := exists_mapM_readBack hseconds
      exact ⟨cut, hread.trans hcut, hall⟩
    · exact hread.trans (mapM_readBack_of_isWhole hwhole)

end Sequences

/-! ### A batch that is rejected, and a time that is not whole -/

/-- the creation of a fabric, as the `n`-th envelope of its time -/
def juteCreated (n : ℕ) (time : Timestamp) : Envelope where
  id := .timeOrdered n 0
  eventType := "app.fabric.created"
  aggregateId := "JU20"
  aggregateType := "fabric"
  aggregateVersion := 1
  eventVersion := 1
  time := time
  provenance := {}
  payload := .object [("code", .string "JU20")]

/-- a creation, then a batch in which the same version comes again -/
def juteBatches : List Request :=
  [.append [juteCreated 1 .epoch],
    .append [{ juteCreated 2 .epoch with aggregateVersion := 2 }, juteCreated 3 .epoch]]

theorem trail_follows_jute :
    Proper (juteBatches ++ [.eventsOf "JU20"]) ∧
      TrailFollows (ledgerAfter juteBatches) (engine.view (engine.recorded juteBatches noRows))
        (.eventsOf "JU20")
        (engine.run (trail (.eventsOf "JU20")) (engine.recorded juteBatches noRows)).1
        (engine.view (engine.recorded (juteBatches ++ [.eventsOf "JU20"]) noRows)) ∧
      ∃ T, engine.view (engine.recorded (juteBatches ++ [.eventsOf "JU20"]) noRows) = ⟨T, .idle⟩ ∧
        Records T [juteCreated 1 .epoch] := by
  have hq : Proper (juteBatches ++ [.eventsOf "JU20"]) := ⟨by decide +kernel, by decide +kernel⟩
  exact ⟨hq, trail_follows engine_faithful rfl rfl juteBatches (.eventsOf "JU20") hq⟩

/-- the beginning of 2025 -/
def newYear : Timestamp := { Timestamp.epoch with date := ⟨2025, 1, 1, by decide, by decide⟩ }

/-- a nanosecond behind the beginning of 2025 -/
def pastNewYear : Timestamp := { newYear with nano := ⟨1, by decide⟩ }

/-- a creation at a time that is not a whole microsecond -/
def juteFine : List Request := [.append [juteCreated 1 pastNewYear]]

/-- A time that is finer than a microsecond is not read back. -/
theorem trail_cuts_jute :
    engine.Faithful ∧ Proper (juteFine ++ [.eventsOf "JU20"]) ∧
      (ledgerAfter juteFine).eventsOf "JU20" = [juteCreated 1 pastNewYear] ∧
      (engine.run (trail (.eventsOf "JU20")) (engine.recorded juteFine noRows)).1 =
        .ok [juteCreated 1 newYear] ∧
      newYear ≠ pastNewYear := by
  have hp : Proper (juteFine ++ [.eventsOf "JU20"]) := ⟨by decide +kernel, by decide +kernel⟩
  have hmemory : (ledgerAfter juteFine).eventsOf "JU20" = [juteCreated 1 pastNewYear] := rfl
  have hrecords : ∃ T, engine.view (engine.recorded juteFine noRows) = ⟨T, .idle⟩ ∧
      Records T (ledgerAfter juteFine).events :=
    records_recorded engine_faithful rfl rfl hp.of_append
  have htime : Timestamp.ofMicros? pastNewYear.micros = some newYear := by decide +kernel
  have hread : readBack (juteCreated 1 pastNewYear) = .ok (juteCreated 1 newYear) := by
    unfold readBack
    rw [show (juteCreated 1 pastNewYear).time = pastNewYear from rfl, htime]
    rfl
  refine ⟨engine_faithful, hp, hmemory, ?_, by decide⟩
  rw [(eventsOf_of_records engine_faithful hrecords "JU20").1, hmemory]
  simp [List.mapM_cons, hread]

end FabricRegistry.Database

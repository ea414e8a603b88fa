import FabricRegistry.Proofs.Database.Session
import FabricRegistry.Proofs.Database.Trail

/-!
The calls with which a batch is recorded in a database, whatever the database replies. Nothing is
sent for a batch that is empty or has an envelope that lacks something. Otherwise the envelopes are
inserted in one transaction, one after the other, until one does not fit the columns or its
insertion fails (`Insertions`). Main statement: `batch_discipline`.
-/

namespace FabricRegistry.Database

open Dialogue
open Trail (Error)

/-! ### The forms of a recording -/

/-- the insertion of an envelope, with the values of its own fields -/
def insertion (e : Envelope) : Statement := .insertEvent (boundEvent e)

/-- The envelopes were inserted, each one in its turn. -/
def Inserted (batch : List Envelope) (calls : List Call) : Prop :=
  List.Forall₂ (fun e c => Fits e ∧ ∃ reply, c = ⟨insertion e, .ok reply⟩) batch calls

/-- **What stops the insertions at an envelope**, with the calls that are made for it: one of its
versions does not fit its column, the aggregate's before the form's, or its insertion fails, for a
key that is not free or for another reason. -/
inductive Stops (e : Envelope) : List Call → Error → Prop where
  | aggregateVersion (h : 2 ^ 63 - 1 < e.aggregateVersion) :
      Stops e [] (.storage s!"version {e.aggregateVersion} exceeds BIGINT range")
  | eventVersion (ha : e.aggregateVersion ≤ 2 ^ 63 - 1) (h : 2 ^ 31 - 1 < e.eventVersion) :
      Stops e [] (.serialization s!"event version {e.eventVersion} exceeds INTEGER range")
  | taken (hfits : Fits e) (message : String) :
      Stops e [⟨insertion e, .error (.rejected "23505" message)⟩]
        (.concurrencyConflict e.aggregateId e.aggregateVersion)
  | failed (hfits : Fits e) {f : Failure} (hf : ∀ message, f ≠ .rejected "23505" message) :
      Stops e [⟨insertion e, .error f⟩] (.storage ("insert_event failed: " ++ f.message))

/-- **The insertions of a batch**: all of them, or those in front of an envelope at which they
stop. -/
inductive Insertions : List Envelope → List Call → Except Error Unit → Prop where
  | all {batch calls} (h : Inserted batch calls) : Insertions batch calls (.ok ())
  | stopped {earlier e later calls last err} (h : Inserted earlier calls)
      (hstop : Stops e last err) : Insertions (earlier ++ e :: later) (calls ++ last) (.error err)

/-- **The calls of a recording** with its result: none for an empty batch or for the first envelope
that lacks something, and otherwise those of a transaction of insertions. -/
inductive Recording (batch : List Envelope) : List Call → Except Error Unit → Prop where
  | empty (h : batch = []) : Recording batch [] (.ok ())
  | lacking {earlier e later err} (hbatch : batch = earlier ++ e :: later)
      (hearlier : ∀ d ∈ earlier, d.validate = .ok ()) (he : e.validate = .error err) :
      Recording batch [] (.error (.invalidEnvelope err))
  | enclosed {calls r} (hne : batch ≠ []) (hv : ∀ e ∈ batch, e.validate = .ok ())
      (h : Enclosed (trailFailure "begin_transaction") (trailFailure "commit_transaction")
        (Insertions batch) calls r) :
      Recording batch calls r

variable {batch : List Envelope} {e : Envelope} {calls : List Call} {r : Except Error Unit}

/-! ### One insertion -/

theorem isUniqueViolation_iff {f : Failure} :
    f.isUniqueViolation = true ↔ ∃ message, f = .rejected "23505" message := by
  cases f <;> simp [Failure.isUniqueViolation]

theorem fits_or_stops (e : Envelope) :
    (Fits e ∧ rowOfEnvelope e = .ok (boundEvent e)) ∨
      ∃ err, rowOfEnvelope e = .error err ∧ Stops e [] err := by
  by_cases ha : e.aggregateVersion ≤ maxBigint
  · by_cases hf : e.eventVersion ≤ maxInteger
    · exact Or.inl ⟨⟨ha, hf⟩, rowOfEnvelope_of_fits ⟨ha, hf⟩⟩
    · refine Or.inr ⟨_, ?_, .eventVersion ha (Nat.lt_of_not_le hf)⟩
      simp [rowOfEnvelope, storedVersion, storedEventVersion, ha, hf]
  · refine Or.inr ⟨_, ?_, .aggregateVersion (Nat.lt_of_not_le ha)⟩
    simp [rowOfEnvelope, storedVersion, ha]

theorem stops_of_failure (hfits : Fits e) (f : Failure) :
    Stops e [⟨insertion e, .error f⟩]
      (if f.isUniqueViolation then .concurrencyConflict e.aggregateId e.aggregateVersion
        else trailFailure "insert_event" f) := by
  by_cases hf : f.isUniqueViolation = true
  · obtain ⟨message, rfl⟩ := isUniqueViolation_iff.mp hf
    rw [if_pos hf]
    exact .taken hfits message
  · rw [if_neg hf]
    exact .failed hfits fun message h => hf (isUniqueViolation_iff.mpr ⟨message, h⟩)

/-! ### The insertions of a batch -/

theorem Insertions.cons {reply : Reply} (hfits : Fits e) (h : Insertions batch calls r) :
    Insertions (e :: batch) (⟨insertion e, .ok reply⟩ :: calls) r := by
  cases h with
  | all h => exact .all (.cons ⟨hfits, reply, rfl⟩ h)
  | stopped h hstop => exact .stopped (.cons ⟨hfits, reply, rfl⟩ h) hstop

theorem Insertions.of_stops {err : Error} (h : Stops e calls err) :
    Insertions (e :: batch) calls (.error err) :=
  .stopped (.nil : Inserted [] []) h

theorem insertions_of_insertEvents (h : Transcript (insertEvents batch) calls r) :
    Insertions batch calls r := by
  induction batch generalizing calls with
  | nil =>
    obtain ⟨rfl, rfl⟩ := transcript_done_iff.mp h
    exact .all .nil
  | cons e rest ih =>
    unfold insertEvents at h
    rcases fits_or_stops e with ⟨hfits, hrow⟩ | ⟨err, hrow, hstop⟩
    · rw [hrow] at h
      rcases calls_attempt h fun _ => rfl with ⟨f, rfl, rfl⟩ | ⟨reply, rest, rfl, hrest⟩
      · exact .of_stops (stops_of_failure hfits f)
      · exact (ih hrest).cons hfits
    · rw [hrow] at h
      obtain ⟨rfl, rfl⟩ := transcript_done_iff.mp h
      exact .of_stops hstop

theorem isCommit_insertion (e : Envelope) : (insertion e).isCommit = false := rfl

theorem writes_insertion (e : Envelope) : (insertion e).writes = true := rfl

theorem Inserted.carriedOut_eq (h : Inserted batch calls) :
    commits calls = 0 ∧ carriedOut calls = batch.map insertion := by
  induction h with
  | nil => exact ⟨rfl, rfl⟩
  | cons hcall _ ih =>
    obtain ⟨-, reply, rfl⟩ := hcall
    simp [ih, writes_insertion, isCommit_insertion]

theorem Stops.carriedOut_eq {err : Error} (h : Stops e calls err) :
    commits calls = 0 ∧ carriedOut calls = [] := by
  cases h <;> exact ⟨rfl, rfl⟩

/-- The insertions of a batch succeed when every envelope is inserted. -/
theorem succeedsWhen_insertions (batch : List Envelope) :
    SucceedsWhen (Insertions batch) (· = batch.map insertion) where
  commits_eq_zero calls r h := by
    cases h with
    | all h => exact h.carriedOut_eq.1
    | stopped h hstop => simp [h.carriedOut_eq.1, hstop.carriedOut_eq.1]
  ok_iff calls r h := by
    cases h with
    | all h => simp [h.carriedOut_eq.2]
    | stopped h hstop =>
      -- the envelopes behind those that were inserted are missing
      simp [h.carriedOut_eq.2, hstop.carriedOut_eq.2]

/-! ### The whole batch -/

theorem validateBatch_eq_error {err : Error} (h : validateBatch batch = .error err) :
    ∃ earlier e later lack, batch = earlier ++ e :: later ∧
      (∀ d ∈ earlier, d.validate = .ok ()) ∧ e.validate = .error lack ∧
      err = .invalidEnvelope lack := by
  induction batch with
  | nil => cases h
  | cons e rest ih =>
    cases hv : e.validate with
    | error lack =>
      simp only [validateBatch, hv, mapError_error, error_bind] at h
      cases h
      exact ⟨[], e, rest, lack, rfl, by simp, hv, rfl⟩
    | ok _ =>
      simp only [validateBatch, hv, mapError_ok, ok_bind] at h
      obtain ⟨earlier, d, later, lack, rfl, hearlier, hd, rfl⟩ := ih h
      exact ⟨e :: earlier, d, later, lack, rfl, List.forall_mem_cons.mpr ⟨hv, hearlier⟩, hd, rfl⟩

theorem recording_of_appendEvents (h : Transcript (appendEvents batch) calls r) :
    Recording batch calls r := by
  unfold appendEvents at h
  split at h
  · next hempty =>
    obtain ⟨rfl, rfl⟩ := transcript_done_iff.mp h
    exact .empty (List.isEmpty_iff.mp hempty)
  · next hempty =>
    have hne : batch ≠ [] := fun hnil => hempty (List.isEmpty_iff.mpr hnil)
    cases hvalid : validateBatch batch with
    | error err =>
      rw [hvalid] at h
      obtain ⟨rfl, rfl⟩ := transcript_done_iff.mp h
      obtain ⟨earlier, e, later, lack, hbatch, hearlier, he, rfl⟩ := validateBatch_eq_error hvalid
      exact .lacking hbatch hearlier he
    | ok _ =>
      rw [hvalid] at h
      obtain ⟨sent, result, last, rfl, hsent, hlast⟩ := transcript_bind_iff.mp h
      have hdone : last = [] ∧ r = result := by
        cases result with
        | ok _ => exact transcript_done_iff.mp (transcript_remark_iff.mp hlast)
        | error e => exact transcript_done_iff.mp hlast
      obtain ⟨rfl, rfl⟩ := hdone
      rw [List.append_nil]
      exact .enclosed hne (validateBatch_eq_ok_iff.mp hvalid)
        (enclosed_of_transaction hsent fun _ _ => insertions_of_insertEvents)

/-- A batch that is refused as invalid has an envelope that lacks something. -/
theorem Recording.exists_lack {lack : EnvelopeError}
    (h : Recording batch calls (.error (.invalidEnvelope lack))) :
    ∃ d ∈ batch, d.validate = .error lack := by
  cases h with
  | lacking hbatch hearlier he => exact ⟨_, by simp [hbatch], he⟩
  | enclosed hne hv h =>
    cases h with
    | givenUp h =>
      cases h with
      | stopped h hstop => cases hstop

theorem inserts_insertion (e : Envelope) : (insertion e).Inserts "events" (eventRow e) :=
  ⟨_, _, Statement.read?_text _, fun _ => rfl⟩

/-- **The discipline of a batch.** Let a database with a state of any kind reply what it likes.
Nothing is sent for an empty batch, which succeeds, or for a batch with an envelope that lacks
something, the first of which is reported. For any other batch a transaction is begun, and the
envelopes are inserted in their order, each with its own fields and only after the one before it
was. An envelope whose versions do not fit stops the insertions without a statement; an insertion
that fails stops them with a conflict at the key of its envelope when the key is not free, and with
a failure of the storage otherwise. The batch is committed exactly if every envelope was inserted,
and then once, and it succeeds exactly if the commit does. -/
theorem batch_discipline (batch : List Envelope) :
    Always (appendEvents batch) (fun calls r => Recording batch calls r ∧
      (commits calls = 1 ↔ batch ≠ [] ∧ carriedOut calls = batch.map insertion) ∧
      commits calls ≤ 1 ∧
      (r = .ok () ↔ batch = [] ∨ ∃ reply, (⟨.commit, .ok reply⟩ : Call) ∈ calls)) ∧
    ∀ e, (insertion e).Inserts "events" (eventRow e) := by
  refine ⟨always_of_transcript fun calls r htranscript => ?_, inserts_insertion⟩
  have h := recording_of_appendEvents htranscript
  refine ⟨h, ?_⟩
  cases h with
  | empty hempty => simp [hempty]
  | lacking hbatch hearlier he => simp [hbatch]
  | enclosed hne hv h =>
    have hw := succeedsWhen_insertions batch
    have hnil : ¬ [] = batch.map insertion := by simpa using hne
    obtain ⟨hcommits, hle⟩ := h.commits_eq_one_iff hw hnil
    have hok : r = .ok () ↔ ∃ reply, (⟨.commit, .ok reply⟩ : Call) ∈ calls :=
      ⟨fun h' => (h.ok_iff hw).mp ⟨(), h'⟩, fun h' => ((h.ok_iff hw).mpr h').choose_spec⟩
    simp [hne, hcommits, hle, hok]

end FabricRegistry.Database

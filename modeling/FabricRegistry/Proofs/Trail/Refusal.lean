import FabricRegistry.Proofs.Trail.History

/-!
Why the trail in memory refuses a batch. The envelopes of a batch are looked at in order, and the
first that cannot be recorded decides: it lacks something, or its key is taken, by what was recorded
or by an envelope before it in the batch. All envelopes before it lack nothing and have keys of
their own. So a conflict hides what a later envelope lacks (`conflict_hides_lack`). Main statement:
`first_fault_decides`.
-/

namespace FabricRegistry.Trail.Ledger

/-- Why an envelope cannot be recorded beside the keys that are taken. What it lacks comes before
its key. -/
inductive Fault (taken : List (String × ℕ)) (e : Envelope) : Error → Prop where
  | lack {err : EnvelopeError} (h : e.validate = .error err) : Fault taken e (.invalidEnvelope err)
  | conflict (hv : e.validate = .ok ()) (h : e.key ∈ taken) :
      Fault taken e (.concurrencyConflict e.aggregateId e.aggregateVersion)

/-- A batch has an envelope that cannot be recorded behind those before it, which can. -/
def FirstFault (taken : List (String × ℕ)) (batch : List Envelope) (err : Error) : Prop :=
  ∃ earlier e later, batch = earlier ++ e :: later ∧ Recordable taken earlier ∧
    Fault (taken ++ earlier.map Envelope.key) e err

variable {l : Ledger} {taken : List (String × ℕ)} {batch earlier later : List Envelope}
  {e : Envelope} {err : Error}

/-! ### Going through a batch -/

theorem checkBatch_of_fault (h : Fault taken e err) :
    checkBatch taken (e :: later) = .error err := by
  cases h with
  | lack h => simp [checkBatch, h]
  | conflict hv h => simp [checkBatch, hv, h]

theorem checkBatch_of_firstFault (h : FirstFault taken batch err) :
    checkBatch taken batch = .error err := by
  obtain ⟨earlier, e, later, rfl, hearlier, hfault⟩ := h
  rw [checkBatch_append hearlier, checkBatch_of_fault hfault]

/-- One more envelope can be recorded as well, or it is the first that cannot. -/
theorem Recordable.snoc (h : Recordable taken earlier) (e : Envelope) :
    Recordable taken (earlier ++ [e]) ∨ ∃ err, Fault (taken ++ earlier.map Envelope.key) e err := by
  cases hv : e.validate with
  | error err => exact Or.inr ⟨_, .lack hv⟩
  | ok _ =>
    by_cases hmem : e.key ∈ taken ++ earlier.map Envelope.key
    · exact Or.inr ⟨_, .conflict hv hmem⟩
    · refine Or.inl ⟨fun d hd => ?_, ?_⟩
      · rcases List.mem_append.mp hd with hd | hd
        · exact h.valid d hd
        · rw [List.mem_singleton.mp hd, hv]
      · rw [List.map_append, List.map_singleton, ← List.append_assoc, ← List.concat_eq_append]
        exact h.keys_nodup.concat hmem

/-- A batch can be recorded, or it has a first envelope that cannot. -/
theorem recordable_or_firstFault (h : taken.Nodup) (batch : List Envelope) :
    Recordable taken batch ∨ ∃ err, FirstFault taken batch err := by
  induction batch using List.reverseRecOn with
  | nil => exact Or.inl ⟨by simp, by simpa using h⟩
  | append_singleton batch e ih =>
    rcases ih with hbatch | ⟨err, earlier, d, later, rfl, hearlier, hfault⟩
    · exact (hbatch.snoc e).imp_right fun ⟨err, hfault⟩ => ⟨err, batch, e, [], rfl, hbatch, hfault⟩
    · exact Or.inr ⟨err, earlier, d, later ++ [e], by simp, hearlier, hfault⟩

theorem FirstFault.append (h : FirstFault taken batch err) (later : List Envelope) :
    FirstFault taken (batch ++ later) err := by
  obtain ⟨earlier, e, rest, rfl, hearlier, hfault⟩ := h
  exact ⟨earlier, e, rest ++ later, by simp, hearlier, hfault⟩

/-- **A batch is refused for its first fault.** -/
theorem append_eq_error_iff (hl : l.Keyed) :
    (l.append batch).1 = .error err ↔ FirstFault l.keys batch err := by
  have hrefused {err : Error} (h : FirstFault l.keys batch err) :
      (l.append batch).1 = .error err := by
    rw [append, checkBatch_of_firstFault h]
  refine ⟨fun h => ?_, hrefused⟩
  rcases recordable_or_firstFault hl.keys_nodup batch with hbatch | ⟨err', hfault⟩
  · rw [append_of_recordable hbatch] at h
    cases h
  · obtain rfl := Except.error.inj ((hrefused hfault).symm.trans h)
    exact hfault

/-! ### The two reasons -/

theorem firstFault_lack_iff {err : EnvelopeError} : FirstFault taken batch (.invalidEnvelope err) ↔
    ∃ earlier e later, batch = earlier ++ e :: later ∧ Recordable taken earlier ∧
      e.validate = .error err := by
  constructor
  · rintro ⟨earlier, e, later, hbatch, hearlier, hfault⟩
    cases hfault with
    | lack h => exact ⟨earlier, e, later, hbatch, hearlier, h⟩
  · rintro ⟨earlier, e, later, hbatch, hearlier, h⟩
    exact ⟨earlier, e, later, hbatch, hearlier, .lack h⟩

theorem firstFault_conflict_iff {id : String} {v : ℕ} :
    FirstFault taken batch (.concurrencyConflict id v) ↔
    ∃ earlier e later, batch = earlier ++ e :: later ∧ Recordable taken earlier ∧
      e.validate = .ok () ∧ e.key = (id, v) ∧ (id, v) ∈ taken ++ earlier.map Envelope.key := by
  constructor
  · rintro ⟨earlier, e, later, hbatch, hearlier, hfault⟩
    cases hfault with
    | conflict hv h => exact ⟨earlier, e, later, hbatch, hearlier, hv, rfl, h⟩
  · rintro ⟨earlier, e, later, hbatch, hearlier, hv, hkey, h⟩
    cases hkey
    exact ⟨earlier, e, later, hbatch, hearlier, .conflict hv h⟩

/-- Envelopes that lack nothing can be recorded, or there is a first conflict among them. -/
theorem recordable_or_conflict (h : taken.Nodup) (hv : ∀ e ∈ batch, e.validate = .ok ()) :
    Recordable taken batch ∨ ∃ id v, FirstFault taken batch (.concurrencyConflict id v) := by
  refine (recordable_or_firstFault h batch).imp_right ?_
  rintro ⟨err, earlier, e, later, rfl, hearlier, hfault⟩
  cases hfault with
  | lack hlack =>
    rw [hv e (by simp)] at hlack
    cases hlack
  | conflict hvalid hmem =>
    exact ⟨_, _, earlier, e, later, rfl, hearlier, .conflict hvalid hmem⟩

/-- No key of a batch is recorded or repeated. -/
def KeysFree (taken : List (String × ℕ)) (batch : List Envelope) : Prop :=
  (batch.map Envelope.key).Nodup ∧ ∀ e ∈ batch, e.key ∉ taken

theorem recordable_iff_keysFree (h : taken.Nodup) (hv : ∀ e ∈ batch, e.validate = .ok ()) :
    Recordable taken batch ↔ KeysFree taken batch :=
  (recordable_iff h).trans (and_iff_right hv)

/-- A batch that lacks nothing is refused for a conflict exactly when a key is not free. -/
theorem exists_conflict_iff (hl : l.Keyed) (hv : ∀ e ∈ batch, e.validate = .ok ()) :
    (∃ id v, (l.append batch).1 = .error (.concurrencyConflict id v)) ↔
      ¬ KeysFree l.keys batch := by
  rw [← recordable_iff_keysFree hl.keys_nodup hv]
  constructor
  · rintro ⟨id, v, h⟩ hbatch
    rw [append_of_recordable hbatch] at h
    cases h
  · intro hbatch
    obtain ⟨id, v, hfault⟩ := (recordable_or_conflict hl.keys_nodup hv).resolve_left hbatch
    exact ⟨id, v, (append_eq_error_iff hl).mpr hfault⟩

/-- What the first lacking envelope lacks is reported exactly when the keys before it are free. -/
theorem lack_reported_iff (hl : l.Keyed) {err : EnvelopeError}
    (hv : ∀ d ∈ earlier, d.validate = .ok ()) (he : e.validate = .error err) :
    (l.append (earlier ++ e :: later)).1 = .error (.invalidEnvelope err) ↔
      KeysFree l.keys earlier := by
  rw [← recordable_iff_keysFree hl.keys_nodup hv]
  constructor
  · intro h
    refine (recordable_or_conflict hl.keys_nodup hv).resolve_right ?_
    rintro ⟨id, v, hfault⟩
    rw [(append_eq_error_iff hl).mpr (hfault.append (e :: later))] at h
    cases h
  · intro hearlier
    exact (append_eq_error_iff hl).mpr ⟨earlier, e, later, rfl, hearlier, .lack he⟩

/-- **The first fault of a batch decides.** After any batches were brought to an empty ledger, a
batch is refused because an envelope lacks something just when all envelopes before it can be
recorded, and because of a conflict just when an envelope that lacks nothing has a key that is
recorded or repeated and all envelopes before it can be recorded; this envelope is named. There is
no other reason. So a batch in which no envelope lacks anything is refused exactly for a key that is
not free; but the first envelope that lacks something is reported only if the keys before it are
free. -/
theorem first_fault_decides (past : List (List Envelope)) (batch : List Envelope) :
    let taken := (ofBatches past).events.map Envelope.key
    let reply := ((ofBatches past).append batch).1
    (∀ err, reply = .error (.invalidEnvelope err) ↔
      ∃ earlier e later, batch = earlier ++ e :: later ∧ Recordable taken earlier ∧
        e.validate = .error err) ∧
    (∀ id v, reply = .error (.concurrencyConflict id v) ↔
      ∃ earlier e later, batch = earlier ++ e :: later ∧ Recordable taken earlier ∧
        e.validate = .ok () ∧ e.key = (id, v) ∧ (id, v) ∈ taken ++ earlier.map Envelope.key) ∧
    (reply = .ok () ∨ (∃ err, reply = .error (.invalidEnvelope err)) ∨
      ∃ id v, reply = .error (.concurrencyConflict id v)) ∧
    ((∀ e ∈ batch, e.validate = .ok ()) →
      ((∃ id v, reply = .error (.concurrencyConflict id v)) ↔ ¬ KeysFree taken batch)) ∧
    ∀ earlier e later err, batch = earlier ++ e :: later →
      (∀ d ∈ earlier, d.validate = .ok ()) → e.validate = .error err →
      (reply = .error (.invalidEnvelope err) ↔ KeysFree taken earlier) := by
  intro taken reply
  have hl := (sound_ofBatches past).toKeyed
  have htaken : taken = (ofBatches past).keys := hl.keys_eq.symm
  rw [htaken]
  refine ⟨fun err => ?_, fun id v => ?_, ?_, exists_conflict_iff hl, ?_⟩
  · exact (append_eq_error_iff hl).trans firstFault_lack_iff
  · exact (append_eq_error_iff hl).trans firstFault_conflict_iff
  · rcases recordable_or_firstFault hl.keys_nodup batch with h | ⟨err, h⟩
    · exact Or.inl ((append_eq_ok_iff hl).mpr h)
    · have hrefused : reply = .error err := (append_eq_error_iff hl).mpr h
      obtain ⟨earlier, e, later, -, -, hfault⟩ := h
      cases hfault with
      | lack _ => exact Or.inr (Or.inl ⟨_, hrefused⟩)
      | conflict _ _ => exact Or.inr (Or.inr ⟨_, _, hrefused⟩)
  · rintro earlier e later err rfl hv he
    exact lack_reported_iff hl hv he

/-! ### A lack that is not seen -/

/-- the envelope of a cotton at one of its versions, with a payload of choice -/
def cotton (version : ℕ) (payload : Json.Value) : Envelope :=
  .new default "app.fabric.updated" "CO10" Envelope.fabricType version payload {}

/-- **A conflict hides what a later envelope lacks.** The cotton is recorded at version 1. A batch
with this version again, and then a version without a payload, is refused for the conflict. -/
theorem conflict_hides_lack :
    let recorded := cotton 1 (.object [("code", .string "CO10")])
    let batch := [recorded, cotton 2 .null]
    (∃ e ∈ batch, e.validate = .error .missingPayload) ∧
      ((ofBatches [[recorded]]).append batch).1 = .error (.concurrencyConflict "CO10" 1) :=
  ⟨⟨cotton 2 .null, by simp, rfl⟩, rfl⟩

end FabricRegistry.Trail.Ledger

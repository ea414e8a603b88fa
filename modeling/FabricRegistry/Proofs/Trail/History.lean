import FabricRegistry.Proofs.Trail.Ledger

/-!
The trail in memory over a history of batches, whatever the batches hold. What is recorded lacks
nothing and has a key that nothing else has (`Sound`), so the keys that are taken are those of the
envelopes and the check of a batch against them is a check against all that was recorded before.
Main statement: `recorded_once`.
-/

namespace FabricRegistry.Trail.Ledger

variable {l : Ledger} {batch : List Envelope}

/-- The keys that are taken are those of the envelopes, each once, and no envelope lacks
anything. -/
structure Sound (l : Ledger) : Prop extends Keyed l where
  valid : ∀ e ∈ l.events, e.validate = .ok ()

theorem sound_empty : Sound empty := ⟨keyed_empty, fun _ he => absurd he List.not_mem_nil⟩

theorem Sound.append (hl : l.Sound) (batch : List Envelope) : (l.append batch).2.Sound := by
  refine ⟨hl.toKeyed.append batch, ?_⟩
  rcases append_cases hl.toKeyed batch with ⟨h, happend⟩ | ⟨-, err, happend⟩
  · rw [happend]
    intro e he
    rcases List.mem_append.mp he with he | he
    · exact hl.valid e he
    · exact h.valid e he
  · rw [happend]
    exact hl.valid

/-- A batch is accepted just when it is recordable. -/
theorem append_eq_ok_iff (hl : l.Keyed) :
    (l.append batch).1 = .ok () ↔ Recordable l.keys batch := by
  rcases append_cases hl batch with ⟨h, happend⟩ | ⟨h, err, happend⟩
  · simp [happend, h]
  · simp [happend, h]

theorem events_of_accepted (h : (l.append batch).1 = .ok ()) :
    (l.append batch).2.events = l.events ++ batch := by
  unfold append at h ⊢
  split at h
  · rfl
  · cases h

/-! ### Histories -/

/-- the ledger after batches that were brought to an empty one -/
def ofBatches (past : List (List Envelope)) : Ledger :=
  past.foldl (fun l batch => (l.append batch).2) empty

theorem ofBatches_append_singleton (past : List (List Envelope)) (batch : List Envelope) :
    ofBatches (past ++ [batch]) = ((ofBatches past).append batch).2 := by
  simp [ofBatches]

theorem sound_ofBatches (past : List (List Envelope)) : (ofBatches past).Sound := by
  induction past using List.reverseRecOn with
  | nil => exact sound_empty
  | append_singleton past batch ih =>
    rw [ofBatches_append_singleton]
    exact ih.append batch

theorem events_prefix_append (l : Ledger) (batch : List Envelope) :
    l.events <+: (l.append batch).2.events := by
  cases h : (l.append batch).1 with
  | ok _ => exact events_of_accepted h ▸ List.prefix_append l.events batch
  | error err => simp only [append_of_error h, List.prefix_rfl]

/-- What was recorded stays, whatever comes behind it. -/
theorem events_prefix_ofBatches (past later : List (List Envelope)) :
    (ofBatches past).events <+: (ofBatches (past ++ later)).events := by
  induction later using List.reverseRecOn with
  | nil => simp
  | append_singleton later batch ih =>
    rw [← List.append_assoc, ofBatches_append_singleton]
    exact ih.trans (events_prefix_append _ batch)

/-- **Everything is recorded once.** After any batches that were brought to an empty ledger, the
taken keys are those of the recorded envelopes, each once, and the envelopes lack nothing. The next
batch is accepted just when its envelopes lack nothing and have keys of their own that are free.
Then it comes behind what was recorded, and otherwise everything stays as it is; what was recorded
never changes. The envelopes of an aggregate are read by version, each version once. -/
theorem recorded_once (past : List (List Envelope)) :
    (ofBatches past).keys = (ofBatches past).events.map Envelope.key ∧
    ((ofBatches past).events.map Envelope.key).Nodup ∧
    (∀ e ∈ (ofBatches past).events, e.validate = .ok ()) ∧
    (∀ batch, ((ofBatches past).append batch).1 = .ok () ↔
      (∀ e ∈ batch, e.validate = .ok ()) ∧ (batch.map Envelope.key).Nodup ∧
        ∀ e ∈ batch, e.key ∉ (ofBatches past).events.map Envelope.key) ∧
    (∀ batch, ((ofBatches past).append batch).1 = .ok () →
      (ofBatches (past ++ [batch])).events = (ofBatches past).events ++ batch) ∧
    (∀ batch err, ((ofBatches past).append batch).1 = .error err →
      ofBatches (past ++ [batch]) = ofBatches past) ∧
    (∀ later, (ofBatches past).events <+: (ofBatches (past ++ later)).events) ∧
    ∀ id, ((ofBatches past).eventsOf id).Pairwise
        (fun a b => a.aggregateVersion < b.aggregateVersion) ∧
      ((ofBatches past).eventsOf id).Perm
        ((ofBatches past).events.filter fun e => e.aggregateId = id) := by
  have hsound := sound_ofBatches past
  refine ⟨hsound.keys_eq, hsound.keys_eq ▸ hsound.keys_nodup, hsound.valid, fun batch => ?_,
    fun batch h => ?_, fun batch err h => ?_, events_prefix_ofBatches past,
    fun id => ⟨hsound.eventsOf_strict id, eventsOf_perm _ id⟩⟩
  · rw [append_eq_ok_iff hsound.toKeyed, recordable_iff hsound.keys_nodup, hsound.keys_eq]
  · rw [ofBatches_append_singleton]
    exact events_of_accepted h
  · rw [ofBatches_append_singleton]
    exact append_of_error h

end FabricRegistry.Trail.Ledger

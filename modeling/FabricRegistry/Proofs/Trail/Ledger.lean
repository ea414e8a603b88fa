import FabricRegistry.Proofs.Except
import FabricRegistry.Proofs.Fabric.Body
import FabricRegistry.Trail.Ledger
import Mathlib.Data.List.Nodup
import Mathlib.Data.List.Sort

/-!
The trail as a set of keyed envelopes. An envelope whose key is not taken is recorded and takes it,
so no key is ever taken twice. The envelopes of one aggregate are read by version; when no version
occurs twice, what is read depends only on which envelopes were recorded and not on their order.
-/

namespace FabricRegistry.Trail.Ledger

variable {l : Ledger} {batch : List Envelope} {e : Envelope} {id : String}

/-! ### Recording -/

theorem append_of_error {err : Error} (h : (l.append batch).1 = .error err) :
    (l.append batch).2 = l := by
  unfold append at h ⊢
  split at h
  · cases h
  · rfl

/-- An envelope that lacks nothing and whose key is free is recorded. -/
theorem append_of_fresh (hv : e.validate = .ok ()) (h : e.key ∉ l.keys) :
    l.append [e] = (.ok (), ⟨l.events ++ [e], l.keys ++ [e.key]⟩) := by
  simp [append, checkBatch, hv, h]

/-! ### Batches -/

/-- The envelopes of a batch lack nothing, and every one has a key of its own beside those that are
taken. -/
structure Recordable (taken : List (String × ℕ)) (batch : List Envelope) : Prop where
  valid : ∀ e ∈ batch, e.validate = .ok ()
  keys_nodup : (taken ++ batch.map Envelope.key).Nodup

/-- Envelopes that can be recorded are passed over, and their keys are taken. -/
theorem checkBatch_append {taken : List (String × ℕ)} (h : Recordable taken batch)
    (later : List Envelope) : checkBatch taken (batch ++ later) =
      checkBatch (taken ++ batch.map Envelope.key) later := by
  induction batch generalizing taken with
  | nil => simp
  | cons e rest ih =>
    have hkeys : (taken ++ [e.key] ++ rest.map Envelope.key).Nodup := by
      simpa using h.keys_nodup
    have hfree : e.key ∉ taken := fun hmem =>
      (List.nodup_append.mp h.keys_nodup).2.2 _ hmem e.key (by simp) rfl
    have hrest := ih ⟨fun d hd => h.valid d (List.mem_cons_of_mem e hd), hkeys⟩
    simp [checkBatch, h.valid e (by simp), hfree, hrest]

theorem checkBatch_of_recordable {taken : List (String × ℕ)} (h : Recordable taken batch) :
    checkBatch taken batch = .ok (taken ++ batch.map Envelope.key) := by
  have hpassed := checkBatch_append h []
  rwa [List.append_nil] at hpassed

/-- A batch that passes the check is recordable. -/
theorem recordable_of_checkBatch {taken keys : List (String × ℕ)} (htaken : taken.Nodup)
    (h : checkBatch taken batch = .ok keys) : Recordable taken batch := by
  induction batch generalizing taken with
  | nil => exact ⟨by simp, by simpa using htaken⟩
  | cons e rest ih =>
    unfold checkBatch at h
    cases hvalid : e.validate with
    | error err => simp [hvalid] at h
    | ok _ =>
      by_cases hmem : e.key ∈ taken
      · simp [hvalid, hmem] at h
      · simp only [hvalid, mapError_ok, ok_bind, List.contains_eq_mem, hmem, decide_false,
          Bool.false_eq_true, if_false] at h
        have hnodup : (taken ++ [e.key]).Nodup := by
          rw [← List.concat_eq_append]
          exact htaken.concat hmem
        have hrest := ih hnodup h
        refine ⟨?_, by simpa using hrest.keys_nodup⟩
        rintro d (_ | ⟨_, hd⟩)
        · exact hvalid
        · exact hrest.valid d hd

theorem recordable_iff {taken : List (String × ℕ)} (h : taken.Nodup) : Recordable taken batch ↔
    (∀ e ∈ batch, e.validate = .ok ()) ∧ (batch.map Envelope.key).Nodup ∧
      ∀ e ∈ batch, e.key ∉ taken := by
  constructor
  · rintro ⟨hvalid, hnodup⟩
    obtain ⟨-, hbatch, hfree⟩ := List.nodup_append.mp hnodup
    exact ⟨hvalid, hbatch, fun e he htaken => hfree _ htaken _ (List.mem_map_of_mem he) rfl⟩
  · rintro ⟨hvalid, hbatch, hfree⟩
    refine ⟨hvalid, List.nodup_append.mpr ⟨h, hbatch, ?_⟩⟩
    rintro key htaken _ hkey rfl
    obtain ⟨e, he, rfl⟩ := List.mem_map.mp hkey
    exact hfree e he htaken

theorem append_of_recordable (h : Recordable l.keys batch) :
    l.append batch = (.ok (), ⟨l.events ++ batch, l.keys ++ batch.map Envelope.key⟩) := by
  rw [append, checkBatch_of_recordable h]

theorem append_of_not_recordable (hl : l.keys.Nodup) (h : ¬ Recordable l.keys batch) :
    ∃ err, l.append batch = (.error err, l) := by
  unfold append
  cases hcheck : checkBatch l.keys batch with
  | ok keys => exact absurd (recordable_of_checkBatch hl hcheck) h
  | error err => exact ⟨err, rfl⟩

/-- The keys that are taken are those of the envelopes, each once. -/
structure Keyed (l : Ledger) : Prop where
  keys_eq : l.keys = l.events.map Envelope.key
  keys_nodup : l.keys.Nodup

theorem keyed_empty : Keyed empty := ⟨rfl, List.nodup_nil⟩

theorem append_cases (hl : l.Keyed) (batch : List Envelope) :
    (Recordable l.keys batch ∧
        l.append batch = (.ok (), ⟨l.events ++ batch, l.keys ++ batch.map Envelope.key⟩)) ∨
      (¬ Recordable l.keys batch ∧ ∃ err, l.append batch = (.error err, l)) := by
  by_cases h : Recordable l.keys batch
  · exact Or.inl ⟨h, append_of_recordable h⟩
  · exact Or.inr ⟨h, append_of_not_recordable hl.keys_nodup h⟩

theorem Keyed.append (hl : l.Keyed) (batch : List Envelope) : (l.append batch).2.Keyed := by
  rcases append_cases hl batch with ⟨h, happend⟩ | ⟨-, err, happend⟩
  · rw [happend]
    exact ⟨by rw [hl.keys_eq, List.map_append], h.keys_nodup⟩
  · rw [happend]
    exact hl

theorem events_append_sublist (hl : l.Keyed) (batch : List Envelope) :
    (l.append batch).2.events.Sublist (l.events ++ batch) := by
  rcases append_cases hl batch with ⟨-, happend⟩ | ⟨-, err, happend⟩
  · rw [happend]
  · rw [happend]
    exact List.sublist_append_left _ _

/-! ### Reading -/

theorem insertByVersion_perm (e : Envelope) (sorted : List Envelope) :
    (insertByVersion e sorted).Perm (e :: sorted) := by
  induction sorted with
  | nil => exact .refl _
  | cons d rest ih =>
    unfold insertByVersion
    split
    · exact .refl _
    · exact (ih.cons d).trans (.swap e d rest)

theorem insertByVersion_sorted {sorted : List Envelope}
    (h : sorted.Pairwise fun a b => a.aggregateVersion ≤ b.aggregateVersion) :
    (insertByVersion e sorted).Pairwise fun a b => a.aggregateVersion ≤ b.aggregateVersion := by
  induction sorted with
  | nil => simp [insertByVersion]
  | cons d rest ih =>
    obtain ⟨hd, hrest⟩ := List.pairwise_cons.mp h
    unfold insertByVersion
    split
    · next hlt =>
      refine List.pairwise_cons.mpr ⟨?_, h⟩
      intro b hb
      rcases List.mem_cons.mp hb with rfl | hb
      · exact hlt.le
      · exact hlt.le.trans (hd b hb)
    · next hge =>
      refine List.pairwise_cons.mpr ⟨?_, ih hrest⟩
      intro b hb
      rcases List.mem_cons.mp ((insertByVersion_perm e rest).mem_iff.mp hb) with rfl | hb
      · exact not_lt.mp hge
      · exact hd b hb

theorem eventsOf_perm (l : Ledger) (id : String) :
    (l.eventsOf id).Perm (l.events.filter fun e => e.aggregateId = id) := by
  have hfold : ∀ events sorted : List Envelope,
      (events.foldl (fun sorted e => insertByVersion e sorted) sorted).Perm (events ++ sorted) := by
    intro events
    induction events with
    | nil => exact fun _ => .refl _
    | cons e rest ih =>
      intro sorted
      have hinsert := (insertByVersion_perm e sorted).append_left rest
      exact (ih _).trans (hinsert.trans List.perm_middle)
  simpa [eventsOf] using hfold (l.events.filter fun e => e.aggregateId = id) []

theorem eventsOf_sorted (l : Ledger) (id : String) :
    (l.eventsOf id).Pairwise fun a b => a.aggregateVersion ≤ b.aggregateVersion := by
  have hfold : ∀ events sorted : List Envelope,
      (sorted.Pairwise fun a b => a.aggregateVersion ≤ b.aggregateVersion) →
      (events.foldl (fun sorted e => insertByVersion e sorted) sorted).Pairwise
        fun a b => a.aggregateVersion ≤ b.aggregateVersion := by
    intro events
    induction events with
    | nil => exact fun _ h => h
    | cons e rest ih => exact fun sorted h => ih _ (insertByVersion_sorted h)
  exact hfold _ [] .nil

/-- Where no key occurs twice, no version of an aggregate does. -/
theorem versions_ne_of_nodup {events : List Envelope} (h : (events.map Envelope.key).Nodup)
    (id : String) : (events.filter fun e => e.aggregateId = id).Pairwise
      fun a b => a.aggregateVersion ≠ b.aggregateVersion := by
  refine List.pairwise_filter.mpr ?_
  refine (List.pairwise_map.mp h).imp fun hkey ha hb hversion => hkey ?_
  exact Prod.ext ((of_decide_eq_true ha).trans (of_decide_eq_true hb).symm) hversion

theorem Keyed.eventsOf_strict (hl : l.Keyed) (id : String) :
    (l.eventsOf id).Pairwise fun a b => a.aggregateVersion < b.aggregateVersion := by
  have hne := versions_ne_of_nodup (hl.keys_eq ▸ hl.keys_nodup) id
  have hne' := ((l.eventsOf_perm id).pairwise_iff fun h => Ne.symm h).mpr hne
  exact ((l.eventsOf_sorted id).and hne').imp fun h => lt_of_le_of_ne h.1 h.2

/-- **What is read of an aggregate.** A list in which versions ascend and which has the recorded
envelopes of the aggregate is what is read. -/
theorem eventsOf_eq {events : List Envelope}
    (hp : events.Perm (l.events.filter fun e => e.aggregateId = id))
    (hs : events.Pairwise fun a b => a.aggregateVersion < b.aggregateVersion) :
    l.eventsOf id = events := by
  have hperm := (l.eventsOf_perm id).trans hp.symm
  -- no version occurs twice, so the envelopes that are read ascend strictly as well
  have hstrict : (l.eventsOf id).Pairwise fun a b => a.aggregateVersion < b.aggregateVersion := by
    have hne : (l.eventsOf id).Pairwise fun a b => a.aggregateVersion ≠ b.aggregateVersion :=
      (hperm.pairwise_iff fun h => Ne.symm h).mpr (hs.imp Nat.ne_of_lt)
    exact ((l.eventsOf_sorted id).and hne).imp fun h => lt_of_le_of_ne h.1 h.2
  exact hperm.eq_of_pairwise (fun a b _ _ hab hba => absurd hab hba.asymm) hstrict hs

end FabricRegistry.Trail.Ledger

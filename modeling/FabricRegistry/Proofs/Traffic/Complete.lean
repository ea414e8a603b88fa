import FabricRegistry.Proofs.Traffic.Account
import Mathlib.Data.List.Nodup

/-!
When nothing is in flight. Commands without a deadline that all have their results have all been
decided, each has the result of its decision, and the ledger has the envelopes of the whole line.
-/

namespace FabricRegistry.Traffic

open Command (Work)

/-- No command has a deadline, and all have their results. -/
structure State.Complete (s : State) : Prop where
  unhurried : ∀ c ∈ s.clients, c.job.invocation.deadline = none
  finished : ∀ c ∈ s.clients, c.result?.isSome

instance (s : State) : Decidable s.Complete :=
  decidable_of_iff ((∀ c ∈ s.clients, c.job.invocation.deadline = none) ∧
    ∀ c ∈ s.clients, c.result?.isSome) ⟨fun h => ⟨h.1, h.2⟩, fun h => ⟨h.1, h.2⟩⟩

theorem complete_race : (run .silent race).Complete := by decide +kernel

variable {channel : Channel} {σ : List Action} {posts : List Post} {line : List Decision}
  {job : Job} {st : Stage} {w : Work Outcome} {k : ℕ} {c : Client}
  {r : Except CommandError Outcome}

namespace Course

/-- A command without a deadline that has its result was decided. It has the result of its
decision, and what the decision left to be recorded is recorded. -/
theorem decision_of_result (h : Course channel σ posts line)
    (hc : (run channel σ).clients[k]? = some c) (hd : c.job.invocation.deadline = none)
    (hr : c.result? = some r) :
    ∃ d ∈ line, d.client = k ∧ d.job = c.job ∧ d.result = r ∧
      ∀ e ∈ d.batch, e ∈ (run channel σ).stores.ledger.events := by
  rcases h.fate_of_result hc hr with ⟨d, hmem, hclient, hjob, hfate⟩ | ⟨-, hd', -⟩
  · refine ⟨d, hmem, hclient, hjob, ?_⟩
    rw [← hjob] at hd
    cases hfate with
    | failed hf => exact ⟨by simp [Decision.result, hf, Except.map], by simp [Decision.batch, hf]⟩
    | recorded hf hin => exact ⟨by simp [Decision.result, hf, Except.map], hin⟩
    | unheard _ hd' => exact absurd hd hd'
    | cutOff _ hd' _ => exact absurd hd hd'
  · exact absurd hd hd'

/-- **When nothing is in flight, a decision is the client's result, and all is recorded.** -/
theorem result_of_complete (h : Course channel σ posts line) (hcomplete : (run channel σ).Complete)
    {d : Decision} (hd : d ∈ line) :
    ∃ c, (run channel σ).clients[d.client]? = some c ∧ c.job = d.job ∧
      c.result? = some d.result ∧ ∀ e ∈ d.batch, e ∈ (run channel σ).stores.ledger.events := by
  obtain ⟨c, -, hc, -, -, hjob⟩ := h.exists_client hd
  have hmem := List.mem_of_getElem? hc
  obtain ⟨r, hr⟩ := Option.isSome_iff_exists.mp (hcomplete.finished c hmem)
  obtain ⟨d', hd', hclient, -, rfl, hin⟩ :=
    h.decision_of_result hc (hcomplete.unhurried c hmem) hr
  obtain rfl := List.inj_on_of_nodup_map h.account.clients_nodup hd' hd hclient
  exact ⟨c, hc, hjob, hr, hin⟩

/-- Every client is decided. -/
theorem client_mem_of_complete (h : Course channel σ posts line)
    (hcomplete : (run channel σ).Complete) (hk : k < (run channel σ).clients.length) :
    k ∈ line.map Decision.client := by
  have hc := List.getElem?_eq_getElem hk
  have hmem := List.mem_of_getElem? hc
  obtain ⟨r, hr⟩ := Option.isSome_iff_exists.mp (hcomplete.finished _ hmem)
  obtain ⟨d, hd, rfl, -⟩ := h.decision_of_result hc (hcomplete.unhurried _ hmem) hr
  exact List.mem_map_of_mem hd

/-- The ledger has the envelopes of the line. -/
theorem events_perm (h : Course channel σ posts line) (hcomplete : (run channel σ).Complete) :
    (run channel σ).stores.ledger.events.Perm (envelopesOf line) := by
  have hevents : (run channel σ).stores.ledger.events.Nodup :=
    .of_map Envelope.key (h.account.keys_eq ▸ h.account.keys_nodup)
  have hline : (envelopesOf line).Nodup := by
    refine h.inLine.envelopes_ascending.imp ?_
    rintro a b hlt rfl
    exact absurd (hlt rfl) (lt_irrefl _)
  refine (List.perm_ext_iff_of_nodup hevents hline).mpr fun e => ⟨h.account.mem_envelopesOf, ?_⟩
  intro he
  obtain ⟨d, hd, hbatch⟩ := List.mem_flatMap.mp he
  obtain ⟨c, -, -, -, hin⟩ := h.result_of_complete hcomplete hd
  exact hin e hbatch

/-- **When nothing is in flight, what is read of an aggregate are its envelopes in the line.** -/
theorem eventsOf_eq (h : Course channel σ posts line) (hcomplete : (run channel σ).Complete)
    (id : String) : (run channel σ).stores.ledger.eventsOf id =
      (envelopesOf line).filter fun e => e.aggregateId = id :=
  h.inLine.eventsOf_eq (h.events_perm hcomplete) id

end Course

end FabricRegistry.Traffic

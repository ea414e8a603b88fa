import FabricRegistry.Proofs.Traffic.Alone
import FabricRegistry.Proofs.Traffic.Complete
import Mathlib.Data.List.FinRange

/-!
Linearizability. Commands at work at the same time come to what the same commands come to one after
the other, in the order in which they were decided (`linearizable`). The order of decisions keeps
the order of commands that did not overlap: a command that has its result is decided, and a command
that is not given yet is not.

The identities and the times of envelopes are given anew in another run, so results and trails are
compared without them (`Envelope.bare`).
-/

namespace FabricRegistry

/-- the envelope without its identity and its time -/
def Envelope.bare (e : Envelope) : Envelope := { e with id := default, time := default }

def Outcome.bare (o : Outcome) : Outcome := { o with events := o.events.map Envelope.bare }

namespace Traffic

open Command (effect)

def Job.withStamps (job : Job) (stamps : ℕ → Stamp) : Job := { job with stamps }

variable {channel : Channel} {σ τ : List Action} {line : List Decision} {s : Stores}

/-! ### In another run -/

/-- A command in another run: it does the same and comes from the same. -/
structure Job.Same (job job' : Job) : Prop where
  command : job'.command = job.command
  provenance : job'.invocation.provenance = job.invocation.provenance

theorem Job.same_withStamps (job : Job) (stamps : ℕ → Stamp) : job.Same (job.withStamps stamps) :=
  ⟨rfl, rfl⟩

/-- Without identity and time, the envelopes do not depend on the run. -/
theorem Job.Same.map_bare_batch {job job' : Job} (h : job.Same job') (f : Fabric) :
    (job'.batch f).map Envelope.bare = (job.batch f).map Envelope.bare := by
  simp only [Job.batch, Command.envelopes, h.provenance, List.map_map]
  rfl

def Decision.withStamps (d : Decision) (stamps : ℕ → Stamp) : Decision :=
  { d with job := d.job.withStamps stamps }

/-- A decision in another run: the same command comes to the same. -/
structure Decision.Same (d d' : Decision) : Prop where
  job : d.job.Same d'.job
  verdict : d'.verdict = d.verdict

theorem Decision.same_withStamps (d : Decision) (stamps : ℕ → Stamp) :
    d.Same (d.withStamps stamps) :=
  ⟨d.job.same_withStamps stamps, rfl⟩

theorem Decision.Same.map_bare_batch {d d' : Decision} (h : d.Same d') :
    d'.batch.map Envelope.bare = d.batch.map Envelope.bare := by
  unfold Decision.batch
  rw [h.verdict]
  cases d.verdict with
  | error e => rfl
  | ok f => exact h.job.map_bare_batch f

theorem Decision.Same.map_bare_result {d d' : Decision} (h : d.Same d') :
    d'.result.map Outcome.bare = d.result.map Outcome.bare := by
  unfold Decision.result
  rw [h.verdict]
  cases d.verdict with
  | error e => rfl
  | ok f => simp [Except.map, Outcome.bare, h.job.map_bare_batch f]

/-- the line with other stamps for each client -/
def restamp (stamps : ℕ → ℕ → Stamp) (line : List Decision) : List Decision :=
  line.map fun d => d.withStamps (stamps d.client)

theorem tableOf_restamp (stamps : ℕ → ℕ → Stamp) (line : List Decision) :
    tableOf (restamp stamps line) = tableOf line := by
  simp only [tableOf, restamp, List.foldl_map]
  rfl

theorem map_bare_envelopesOf_restamp (stamps : ℕ → ℕ → Stamp) (line : List Decision) :
    (envelopesOf (restamp stamps line)).map Envelope.bare =
      (envelopesOf line).map Envelope.bare := by
  unfold envelopesOf restamp
  rw [List.map_flatMap, List.map_flatMap, List.flatMap_map]
  exact List.flatMap_congr fun d _ => (d.same_withStamps (stamps d.client)).map_bare_batch

theorem InLine.restamp (stamps : ℕ → ℕ → Stamp) (h : InLine line) :
    InLine (restamp stamps line) := by
  induction h with
  | nil => exact .nil
  | @snoc line d h hv ih =>
    unfold Traffic.restamp
    rw [List.map_append]
    refine .snoc ih ?_
    show d.verdict = effect (tableOf (Traffic.restamp stamps line)) d.job.command
    rw [tableOf_restamp]
    exact hv

theorem map_bare_filter (events : List Envelope) (id : String) :
    (events.filter fun e => e.aggregateId = id).map Envelope.bare =
      (events.map Envelope.bare).filter fun e => e.aggregateId = id := by
  rw [List.filter_map]
  rfl

/-! ### One after the other -/

theorem inTurn_append_singleton (jobs : List Job) (job : Job) (s : Stores) :
    inTurn channel (jobs ++ [job]) s =
      ((inTurn channel jobs s).1 ++ [((inTurn channel jobs s).2.alone channel job).1],
        ((inTurn channel jobs s).2.alone channel job).2) := by
  induction jobs generalizing s with
  | nil => rfl
  | cons j rest ih => simp [inTurn, ih]

/-- **The commands of a line, one after the other, come to their decisions.** -/
theorem inTurn_line (channel : Channel) (h : InLine line)
    (hd : ∀ d ∈ line, d.job.invocation.deadline = none) :
    (inTurn channel (line.map Decision.job) .empty).1 = line.map Decision.result ∧
    (inTurn channel (line.map Decision.job) .empty).2.table = tableOf line ∧
    (inTurn channel (line.map Decision.job) .empty).2.ledger =
      ⟨envelopesOf line, (envelopesOf line).map Envelope.key⟩ := by
  induction h with
  | nil => exact ⟨rfl, rfl, rfl⟩
  | @snoc line d h hv ih =>
    obtain ⟨hresults, htable, hledger⟩ := ih fun a ha => hd a (List.mem_append_left _ ha)
    rw [List.map_append, List.map_singleton, inTurn_append_singleton]
    generalize inTurn channel (line.map Decision.job) .empty = turn at hresults htable hledger
    have hs : turn.2.Orderly := by
      refine ⟨htable ▸ h.tidy, ?_⟩
      intro key hkey
      rw [hledger] at hkey
      obtain ⟨e, he, rfl⟩ := List.mem_map.mp hkey
      obtain ⟨code, hid, -, hle⟩ := h.key_mem he
      exact ⟨code, hid, htable ▸ hle⟩
    rw [Stores.alone_eq channel (hd d (by simp)) hs, Stores.decide, htable, ← hv]
    cases hf : d.verdict with
    | error e =>
      simp [hf, hresults, htable, hledger, Decision.result, Decision.batch, Except.map]
    | ok f =>
      simp [hf, hresults, hledger, Decision.result, Decision.batch, Except.map]

/-! ### Commands that did not overlap -/

/-- A client keeps its command. -/
theorem clients_keep_jobs (channel : Channel) (σ τ : List Action) :
    (run channel σ).clients.map Client.job <+: (run channel (σ ++ τ)).clients.map Client.job := by
  induction τ using List.reverseRecOn with
  | nil => simp
  | append_singleton τ a ih =>
    rw [← List.append_assoc, run_append_singleton]
    refine ih.trans ?_
    cases a with
    | start job => simp [State.step]
    | move k timing =>
      simp only [State.step]
      split
      · exact List.prefix_rfl
      · next c hc =>
        obtain ⟨hlt, rfl⟩ := List.getElem?_eq_some_iff.mp hc
        refine ⟨[], ?_⟩
        rw [List.append_nil, List.map_set, ← List.getElem_map Client.job (h := by simpa using hlt),
          List.set_getElem_self]

/-- **The line keeps the order of commands that did not overlap.** -/
theorem Course.sublist_of_precedes {posts : List Post} (h : Course channel σ posts line)
    (hcomplete : (run channel σ).Complete) {a b : ℕ} (hab : Precedes channel σ a b) :
    [a, b].Sublist (line.map Decision.client) := by
  obtain ⟨before, job, after, rfl, hb, c, hc, hr⟩ := hab
  obtain ⟨posts', line', h', rest, rfl⟩ := h.of_append
  have hjobs := clients_keep_jobs channel before (.start job :: after)
  -- the first has its result when the second is given, so it is decided by then
  have ha : a ∈ line'.map Decision.client := by
    obtain ⟨r, hr⟩ := Option.isSome_iff_exists.mp hr
    have hunhurried : c.job.invocation.deadline = none := by
      have hmem : c.job ∈ (run channel (before ++ .start job :: after)).clients.map Client.job :=
        hjobs.subset (List.mem_map_of_mem (List.mem_of_getElem? hc))
      obtain ⟨c', hc', heq⟩ := List.mem_map.mp hmem
      exact heq ▸ hcomplete.unhurried c' hc'
    obtain ⟨d, hd, rfl, -⟩ := h'.decision_of_result hc hunhurried hr
    exact List.mem_map_of_mem hd
  -- the second is decided later
  have hb' : b ∈ rest.map Decision.client := by
    have hlt : b < (run channel (before ++ .start job :: after)).clients.length := by
      have hlater := (clients_keep_jobs channel (before ++ [.start job]) after).length_le
      simp only [List.append_assoc, List.singleton_append, List.length_map] at hlater
      rw [run_append_singleton] at hlater
      simp only [State.step, List.length_append, List.length_singleton, hb] at hlater
      omega
    have hmem := h.client_mem_of_complete hcomplete hlt
    rw [List.map_append] at hmem
    refine (List.mem_append.mp hmem).resolve_left fun hmem => ?_
    obtain ⟨d, hd, hclient⟩ := List.mem_map.mp hmem
    have hlen := h'.account.client_lt hd
    rw [← h'.mirrors.length_eq, hb, hclient] at hlen
    exact lt_irrefl _ hlen
  rw [List.map_append]
  exact (List.singleton_sublist.mpr ha).append (List.singleton_sublist.mpr hb')

/-! ### The order of decisions -/

/-- the clients in the order of their decisions -/
def orderOf {n : ℕ} (line : List Decision) (hlt : ∀ d ∈ line, d.client < n) : List (Fin n) :=
  line.pmap (fun d hd => ⟨d.client, hd⟩) hlt

theorem map_val_orderOf {n : ℕ} (hlt : ∀ d ∈ line, d.client < n) :
    (orderOf line hlt).map Fin.val = line.map Decision.client := by
  simp [orderOf, List.map_pmap]

/-- What clients show in the order of decisions, where decisions say what the clients show. -/
theorem map_orderOf {n : ℕ} {β : Type} (hlt : ∀ d ∈ line, d.client < n) (shown : Fin n → β)
    (said : Decision → β) (h : ∀ d (hd : d ∈ line), shown ⟨d.client, hlt d hd⟩ = said d) :
    (orderOf line hlt).map shown = line.map said := calc
  (orderOf line hlt).map shown = line.pmap (fun d hd => shown ⟨d.client, hd⟩) hlt := by
    rw [orderOf, List.map_pmap]
  _ = line.pmap (fun d _ => said d) hlt := List.pmap_congr_left line fun d hd _ _ => h d hd
  _ = line.map said := List.pmap_eq_map hlt

namespace Course

variable {posts : List Post}

theorem client_lt (h : Course channel σ posts line) :
    ∀ d ∈ line, d.client < (run channel σ).clients.length := by
  intro d hd
  rw [h.mirrors.length_eq]
  exact h.account.client_lt hd

/-- When nothing is in flight, every client is in the order once. -/
theorem orderOf_perm (h : Course channel σ posts line) (hcomplete : (run channel σ).Complete) :
    (orderOf line h.client_lt).Perm (List.finRange _) := by
  have hval := map_val_orderOf h.client_lt
  have hnodup : (orderOf line h.client_lt).Nodup :=
    .of_map Fin.val (hval ▸ h.account.clients_nodup)
  refine (List.perm_ext_iff_of_nodup hnodup (List.nodup_finRange _)).mpr fun k => ?_
  refine ⟨fun _ => List.mem_finRange k, fun _ => ?_⟩
  have hmem := h.client_mem_of_complete hcomplete k.isLt
  rw [← hval] at hmem
  obtain ⟨k', hk', heq⟩ := List.mem_map.mp hmem
  exact Fin.ext heq ▸ hk'

/-- The order keeps the order of commands that did not overlap. -/
theorem sublist_orderOf (h : Course channel σ posts line) (hcomplete : (run channel σ).Complete)
    {a b : Fin (run channel σ).clients.length} (hab : Precedes channel σ a b) :
    [a, b].Sublist (orderOf line h.client_lt) := by
  have hsub := h.sublist_of_precedes hcomplete hab
  rw [← map_val_orderOf h.client_lt, List.sublist_map_iff] at hsub
  obtain ⟨l, hl, heq⟩ := hsub
  have : [a, b] = l := List.map_injective_iff.mpr Fin.val_injective (by simpa using heq)
  exact this ▸ hl

/-- What a client shows when nothing is in flight is what its decision says. -/
theorem shown_of_complete (h : Course channel σ posts line) (hcomplete : (run channel σ).Complete)
    {d : Decision} (hd : d ∈ line) :
    let k : Fin (run channel σ).clients.length := ⟨d.client, h.client_lt d hd⟩
    (run channel σ).clients[k].job = d.job ∧
      (run channel σ).clients[k].result? = some d.result := by
  obtain ⟨c, hc, hjob, hresult, -⟩ := h.result_of_complete hcomplete hd
  obtain ⟨_, rfl⟩ := List.getElem?_eq_some_iff.mp hc
  exact ⟨hjob, hresult⟩

/-- No decision of the line has a deadline, whatever stamps it has. -/
theorem unhurried_restamp (h : Course channel σ posts line) (hcomplete : (run channel σ).Complete)
    (stamps : ℕ → ℕ → Stamp) :
    ∀ d ∈ Traffic.restamp stamps line, d.job.invocation.deadline = none := by
  intro d' hd'
  obtain ⟨d, hd, rfl⟩ := List.mem_map.mp hd'
  show d.job.invocation.deadline = none
  rw [← (h.shown_of_complete hcomplete hd).1]
  exact hcomplete.unhurried _ (List.getElem_mem _)

end Course

/-- **Commands at work at the same time are linearizable.** Let commands without a deadline be given
to empty stores, in any schedule in which they all get their results. There is an order of the
commands that keeps the order of those that did not overlap, and the same commands one after the
other in this order, with whatever channel and stamps, have the same results and leave the same row
for every code and the same trail for every aggregate, but for identities and times. -/
theorem linearizable (channel : Channel) (σ : List Action) (h : (run channel σ).Complete) :
    let final := run channel σ
    ∃ order : List (Fin final.clients.length), order.Perm (List.finRange _) ∧
      (∀ a b : Fin final.clients.length, Precedes channel σ a b → [a, b].Sublist order) ∧
      ∀ (channel' : Channel) (stamps : ℕ → ℕ → Stamp),
        let turn := inTurn channel'
          (order.map fun k => final.clients[k].job.withStamps (stamps k)) .empty
        turn.1.map (fun r => some (r.map Outcome.bare)) =
          order.map (fun k => final.clients[k].result?.map (Except.map Outcome.bare)) ∧
        (∀ code, turn.2.table.find? code = final.stores.table.find? code) ∧
        ∀ id, (turn.2.ledger.eventsOf id).map Envelope.bare =
          (final.stores.ledger.eventsOf id).map Envelope.bare := by
  intro final
  obtain ⟨posts, line, hcourse⟩ := exists_course channel σ
  refine ⟨orderOf line hcourse.client_lt, hcourse.orderOf_perm h,
    fun a b hab => hcourse.sublist_orderOf h hab, ?_⟩
  intro channel' stamps
  have hjobs : ((orderOf line hcourse.client_lt).map fun k =>
      final.clients[k].job.withStamps (stamps k)) = (restamp stamps line).map Decision.job := by
    rw [restamp, List.map_map]
    refine map_orderOf _ _ _ fun d hd => ?_
    exact congrArg (Job.withStamps · (stamps d.client)) (hcourse.shown_of_complete h hd).1
  have hresults : ((orderOf line hcourse.client_lt).map fun k =>
      final.clients[k].result?.map (Except.map Outcome.bare)) =
        line.map fun d => some (d.result.map Outcome.bare) := by
    refine map_orderOf _ _ _ fun d hd => ?_
    exact congrArg (Option.map (Except.map Outcome.bare)) (hcourse.shown_of_complete h hd).2
  have hline := hcourse.inLine.restamp stamps
  obtain ⟨hturn, htable, hledger⟩ :=
    inTurn_line channel' hline (hcourse.unhurried_restamp h stamps)
  rw [hjobs, hresults]
  refine ⟨?_, ?_, ?_⟩
  · rw [hturn, restamp, List.map_map, List.map_map]
    refine List.map_congr_left fun d _ => ?_
    exact congrArg some (d.same_withStamps (stamps d.client)).map_bare_result
  · intro code
    rw [htable, tableOf_restamp, ← hcourse.table_eq]
  · intro id
    have hperm := List.Perm.of_eq (congrArg Trail.Ledger.events hledger)
    rw [hline.eventsOf_eq hperm, hcourse.eventsOf_eq h, map_bare_filter, map_bare_filter,
      map_bare_envelopesOf_restamp]

/-- In the race the creation is before the update and before the deletion, which overlap. -/
theorem linearizable_race : ∃ order : List (Fin (run .silent race).clients.length),
    order.Perm (List.finRange _) ∧ ∀ a b : Fin (run .silent race).clients.length,
      a.val = 0 → b.val ≠ 0 → [a, b].Sublist order := by
  obtain ⟨order, hperm, hsub, -⟩ := linearizable .silent race complete_race
  refine ⟨order, hperm, fun a b ha hb => hsub a b ?_⟩
  have hb' : b.val = 1 ∨ b.val = 2 := by
    have hlength : (run .silent race).clients.length = 3 := by decide +kernel
    have := b.isLt
    omega
  rw [ha]
  rcases hb' with hb' | hb'
  · rw [hb']
    exact ⟨race.take 4, _, race.drop 5, rfl, by decide +kernel, _, rfl, by decide +kernel⟩
  · rw [hb']
    exact ⟨race.take 5, _, race.drop 6, rfl, by decide +kernel, _, rfl, by decide +kernel⟩

end Traffic

end FabricRegistry

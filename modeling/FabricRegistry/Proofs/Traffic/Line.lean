import FabricRegistry.Proofs.Traffic.Stage
import FabricRegistry.Proofs.Trail.Ledger

/-!
Commands in a line: each is decided on the table that the ones before it leave, whole and with
nobody else at work. `InLine` says of a list of decisions that it is such a line. Nothing here is
about interleavings; what commands at work at the same time come to is a line as well, in the order
of their decisions, and all that is shown of lines then holds of them.

The facts that a line leaves of one code, in the order of the line, replay to the row of the code
(`InLine.replay_factsOf`), and the versions of one code ascend in the line (`InLine.ascending`). So
a ledger that has the envelopes of a line, in whatever order, reads back in the order of the line.
-/

namespace FabricRegistry.Traffic

open Command (effect)

/-- a command with its verdict -/
structure Decision where
  /-- the number of the client whose command it is -/
  client : ℕ
  job : Job
  verdict : Verdict

/-- The batch of a command that writes is one envelope, of the fabric's code and version. -/
theorem Job.batch_of_effect (job : Job) {t : Catalogue.Table} {f : Fabric}
    (h : effect t job.command = .ok f) : ∃ x : Fact, f.pending = [x] ∧ x.code = f.code ∧
      x.version = f.version ∧
      job.batch f = [.ofFact (job.stamps 0) x job.invocation.provenance] := by
  obtain ⟨x, hx, hcode, hversion, -⟩ := Command.effect_eq_ok h
  exact ⟨x, hx, hcode, hversion, by simp [Job.batch, Command.envelopes, hx]⟩

namespace Decision

/-- the facts that the decision leaves to be recorded -/
def facts (d : Decision) : List Fact :=
  match d.verdict with
  | .ok f => f.pending
  | .error _ => []

/-- the envelopes of these facts -/
def batch (d : Decision) : List Envelope :=
  match d.verdict with
  | .ok f => d.job.batch f
  | .error _ => []

theorem verdict_of_mem_batch {d : Decision} {e : Envelope} (h : e ∈ d.batch) :
    ∃ f, d.verdict = .ok f := by
  cases hf : d.verdict with
  | ok f => exact ⟨f, rfl⟩
  | error err => simp [batch, hf] at h

/-- the result of a command that is decided and records its envelopes -/
def result (d : Decision) : Except CommandError Outcome :=
  d.verdict.map fun f => ⟨f.settled, d.job.batch f⟩

end Decision

/-- the table that the decisions leave -/
def tableOf (line : List Decision) : Catalogue.Table :=
  line.foldl (fun t d => t.settle d.verdict) .empty

/-- the facts that the decisions leave of a code -/
def factsOf (line : List Decision) (code : Code) : List Fact :=
  (line.flatMap Decision.facts).filter fun x => x.code = code

/-- the envelopes of all that the decisions leave to be recorded -/
def envelopesOf (line : List Decision) : List Envelope := line.flatMap Decision.batch

/-- Each verdict is the effect of the command on the table that the decisions before leave. -/
inductive InLine : List Decision → Prop where
  | nil : InLine []
  | snoc {line d} (h : InLine line) (hv : d.verdict = effect (tableOf line) d.job.command) :
      InLine (line ++ [d])

@[simp] theorem tableOf_nil : tableOf [] = .empty := rfl

@[simp] theorem tableOf_append_singleton (line : List Decision) (d : Decision) :
    tableOf (line ++ [d]) = (tableOf line).settle d.verdict := by
  simp [tableOf]

theorem factsOf_append_singleton (line : List Decision) (d : Decision) (code : Code) :
    factsOf (line ++ [d]) code = factsOf line code ++ d.facts.filter fun x => x.code = code := by
  simp [factsOf]

@[simp] theorem envelopesOf_append_singleton (line : List Decision) (d : Decision) :
    envelopesOf (line ++ [d]) = envelopesOf line ++ d.batch := by
  simp [envelopesOf]

namespace InLine

variable {line : List Decision}

theorem tidy (h : InLine line) : (tableOf line).Tidy := by
  induction h with
  | nil => exact Catalogue.Table.tidy_empty
  | snoc h hv ih =>
    rw [tableOf_append_singleton, hv]
    exact Command.tidy_settle_effect ih _

theorem verdict_eq (h : InLine line) {d : Decision} (hd : d ∈ line) :
    ∃ t, d.verdict = effect t d.job.command := by
  induction h with
  | nil => cases hd
  | snoc h hv ih =>
    rcases List.mem_append.mp hd with hd | hd
    · exact ih hd
    · obtain rfl := List.mem_singleton.mp hd
      exact ⟨_, hv⟩

theorem verdict_ne_eventsNotRecorded (h : InLine line) {d : Decision} (hd : d ∈ line) {code : Code}
    {v : ℕ} {reason : String} {conflict : Bool} :
    d.verdict ≠ .error (.eventsNotRecorded code v reason conflict) := by
  intro heq
  obtain ⟨t, ht⟩ := h.verdict_eq hd
  rcases Command.effect_eq_error (ht.symm.trans heq) with ⟨_, h⟩ | ⟨_, h⟩ | ⟨_, h⟩ | ⟨_, _, h⟩ <;>
    cases h

theorem verdict_ne_deadlineExceeded (h : InLine line) {d : Decision} (hd : d ∈ line)
    {step : String} : d.verdict ≠ .error (.deadlineExceeded step) := by
  intro heq
  obtain ⟨t, ht⟩ := h.verdict_eq hd
  rcases Command.effect_eq_error (ht.symm.trans heq) with ⟨_, h⟩ | ⟨_, h⟩ | ⟨_, h⟩ | ⟨_, _, h⟩ <;>
    cases h

/-- What is to be recorded of a decision that writes is one envelope, of the fabric's code and
version. -/
theorem batch_of_mem (h : InLine line) {d : Decision} (hd : d ∈ line) {f : Fabric}
    (hf : d.verdict = .ok f) : ∃ x : Fact, f.pending = [x] ∧ x.code = f.code ∧
      x.version = f.version ∧
      d.batch = [.ofFact (d.job.stamps 0) x d.job.invocation.provenance] := by
  obtain ⟨t, ht⟩ := h.verdict_eq hd
  obtain ⟨x, hx, hcode, hversion, hbatch⟩ := d.job.batch_of_effect (ht.symm.trans hf)
  exact ⟨x, hx, hcode, hversion, by simp only [Decision.batch, hf, hbatch]⟩

/-- **The facts of a code replay to its row.** -/
theorem replay_factsOf (h : InLine line) (code : Code) :
    replay (factsOf line code) = some ((tableOf line).find? code) := by
  induction h with
  | nil => rfl
  | @snoc line d h hv ih =>
    rw [tableOf_append_singleton, factsOf_append_singleton]
    cases hf : d.verdict with
    | error e => simpa [Decision.facts, hf] using ih
    | ok f =>
      obtain ⟨x, hx, hcode, -, honto⟩ := Command.effect_eq_ok (hv.symm.trans hf)
      have hfacts : d.facts = [x] := by simp [Decision.facts, hf, hx]
      rw [hfacts, Catalogue.Table.settle_ok]
      by_cases hc : f.code = code
      · subst hc
        have hfind := Catalogue.Table.find?_put_self (tableOf line) f.settled
        rw [Fabric.settled_code] at hfind
        rw [hfind, List.filter_cons_of_pos (by simp [hcode])]
        exact replay_snoc ih honto
      · rw [Catalogue.Table.find?_put_of_ne (by exact hc),
          List.filter_cons_of_neg (by simp [hcode, hc])]
        simpa using ih

/-- What is written has a version between 1 and the version that the row has in the end. -/
theorem version_mem (h : InLine line) {d : Decision} (hd : d ∈ line) {f : Fabric}
    (hf : d.verdict = .ok f) : 1 ≤ f.version ∧ f.version ≤ (tableOf line).versionOf f.code := by
  induction h with
  | nil => cases hd
  | @snoc line e h hv ih =>
    rw [tableOf_append_singleton]
    rcases List.mem_append.mp hd with hd | hd
    · have hle := Command.versionOf_le_settle_effect (tableOf line) e.job.command f.code
      rw [← hv] at hle
      exact ⟨(ih hd).1, Nat.le_trans (ih hd).2 hle⟩
    · obtain rfl := List.mem_singleton.mp hd
      have hversion := Command.version_of_effect (hv.symm.trans hf)
      rw [hf, Catalogue.Table.settle_ok, Catalogue.Table.versionOf_put, if_pos rfl]
      omega

/-- **The versions of one code ascend.** -/
theorem ascending (h : InLine line) : line.Pairwise fun a b => ∀ f g, a.verdict = .ok f →
    b.verdict = .ok g → f.code = g.code → f.version < g.version := by
  induction h with
  | nil => exact .nil
  | @snoc line d h hv ih =>
    refine List.pairwise_append.mpr ⟨ih, List.pairwise_singleton _ _, ?_⟩
    intro a ha b hb f g hf hg hcode
    obtain rfl := List.mem_singleton.mp hb
    have hversion := Command.version_of_effect (hv.symm.trans hg)
    have hle := (h.version_mem ha hf).2
    rw [hcode] at hle
    omega

/-- Every version up to the one that the row has in the end is written. -/
theorem exists_of_version (h : InLine line) {code : Code} {v : ℕ} (h1 : 1 ≤ v)
    (hv : v ≤ (tableOf line).versionOf code) :
    ∃ d ∈ line, ∃ f, d.verdict = .ok f ∧ f.code = code ∧ f.version = v := by
  induction h with
  | nil =>
    rw [tableOf_nil, Catalogue.Table.versionOf_empty] at hv
    omega
  | @snoc line e h he ih =>
    rw [tableOf_append_singleton] at hv
    by_cases hold : v ≤ (tableOf line).versionOf code
    · obtain ⟨d, hd, hf⟩ := ih hold
      exact ⟨d, List.mem_append_left _ hd, hf⟩
    · -- the last decision brought the row to this version
      cases hf : e.verdict with
      | error err =>
        rw [hf] at hv
        exact absurd hv hold
      | ok f =>
        have hversion := Command.version_of_effect (he.symm.trans hf)
        rw [hf, Catalogue.Table.settle_ok, Catalogue.Table.versionOf_put] at hv
        split at hv
        · next hcode =>
          subst hcode
          exact ⟨e, by simp, f, hf, rfl, by omega⟩
        · exact absurd hv hold

/-! ### The envelopes of a line -/

/-- **The versions of one aggregate ascend.** -/
theorem envelopes_ascending (h : InLine line) : (envelopesOf line).Pairwise fun a b =>
    a.aggregateId = b.aggregateId → a.aggregateVersion < b.aggregateVersion := by
  refine List.pairwise_flatMap.mpr ⟨?_, ?_⟩
  · intro d hd
    cases hf : d.verdict with
    | error e => simp [Decision.batch, hf]
    | ok f =>
      obtain ⟨x, -, -, -, hbatch⟩ := h.batch_of_mem hd hf
      rw [hbatch]
      exact List.pairwise_singleton _ _
  · refine List.Pairwise.imp_of_mem ?_ h.ascending
    intro a b ha hb hab x hx y hy hid
    cases hf : a.verdict with
    | error e => simp [Decision.batch, hf] at hx
    | ok f =>
      cases hg : b.verdict with
      | error e => simp [Decision.batch, hg] at hy
      | ok g =>
        obtain ⟨p, -, hpc, hpv, hp⟩ := h.batch_of_mem ha hf
        obtain ⟨q, -, hqc, hqv, hq⟩ := h.batch_of_mem hb hg
        rw [hp, List.mem_singleton] at hx
        rw [hq, List.mem_singleton] at hy
        subst hx hy
        simp only [Envelope.aggregateId_ofFact, Envelope.aggregateVersion_ofFact, hpc, hpv, hqc,
          hqv] at hid ⊢
        exact hab f g hf hg (Code.text_injective hid)

/-- The key of an envelope is of a code, with a version that its row has reached. -/
theorem key_mem (h : InLine line) {e : Envelope} (he : e ∈ envelopesOf line) :
    ∃ code : Code, e.aggregateId = code.text ∧ 1 ≤ e.aggregateVersion ∧
      e.aggregateVersion ≤ (tableOf line).versionOf code := by
  obtain ⟨d, hd, hbatch⟩ := List.mem_flatMap.mp he
  obtain ⟨f, hf⟩ := Decision.verdict_of_mem_batch hbatch
  obtain ⟨x, -, hcode, hversion, heq⟩ := h.batch_of_mem hd hf
  rw [heq, List.mem_singleton] at hbatch
  subst hbatch
  refine ⟨x.code, rfl, ?_⟩
  rw [Envelope.aggregateVersion_ofFact, hcode, hversion]
  exact h.version_mem hd hf

/-- The envelopes of an aggregate tell the facts of its code. -/
theorem mapM_fact? (h : InLine line) (code : Code)
    (hv : ∀ d ∈ line, ∀ f, d.verdict = .ok f → f.version < 2 ^ 64) :
    ((envelopesOf line).filter fun e => e.aggregateId = code.text).mapM Envelope.fact? =
      some (factsOf line code) := by
  induction h with
  | nil => rfl
  | @snoc line d h hd ih =>
    have ih := ih fun a ha => hv a (List.mem_append_left _ ha)
    rw [envelopesOf_append_singleton, factsOf_append_singleton, List.filter_append,
      List.mapM_append, ih]
    have hsnoc := InLine.snoc h hd
    have hmem : d ∈ line ++ [d] := by simp
    cases hf : d.verdict with
    | error e => simp [Decision.batch, Decision.facts, hf]
    | ok f =>
      obtain ⟨x, hx, -, hversion, hbatch⟩ := hsnoc.batch_of_mem hmem hf
      have hfacts : d.facts = [x] := by simp [Decision.facts, hf, hx]
      have hfact := Envelope.fact?_ofFact (d.job.stamps 0) x d.job.invocation.provenance
        (hversion ▸ hv d hmem f hf)
      rw [hbatch, hfacts]
      by_cases hc : x.code = code
      · simp [hc, hfact]
      · have hne : x.code.text ≠ code.text := fun h => hc (Code.text_injective h)
        simp [hc, hne]

/-- What is read of an aggregate from a ledger with the envelopes of a line, recorded in whatever
order. -/
theorem eventsOf_eq (h : InLine line) {l : Trail.Ledger} (hp : l.events.Perm (envelopesOf line))
    (id : String) :
    l.eventsOf id = (envelopesOf line).filter fun e => e.aggregateId = id := by
  refine Trail.Ledger.eventsOf_eq (hp.filter _).symm ?_
  refine List.Pairwise.imp_of_mem ?_ (h.envelopes_ascending.filter _)
  intro a b ha hb hab
  have ha := of_decide_eq_true (List.mem_filter.mp ha).2
  have hb := of_decide_eq_true (List.mem_filter.mp hb).2
  exact hab (ha.trans hb.symm)

end InLine

end FabricRegistry.Traffic

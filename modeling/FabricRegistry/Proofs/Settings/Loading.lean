import FabricRegistry.Proofs.Except
import FabricRegistry.Proofs.Settings.Variables

/-!
What the settings are loaded from. They are a matter of fourteen variables (`variableNames`), five
of which are looked at one after the other (`checked`): the first of these with a problem is
complained about, and without any problem the settings are what the variables say, with the defaults
for what they do not say (`Describes`). Main statement: `load_determined`.
-/

namespace FabricRegistry.Settings

/-- the numbers of connections -/
def counts : List String := ["POSTGRES_OPEN_CONNS", "POSTGRES_IDLE_CONNS"]

/-- the timeouts -/
def timeouts : List String := ["POSTGRES_IDLE_TIME", "COMMAND_TIMEOUT"]

/-- the variables that may have a problem, in the order in which they are looked at -/
def checked : List String := "POSTGRES_URI" :: counts ++ timeouts

/-- the variables that are taken as they are or cut, where they are set -/
def free : List String :=
  ["ENV", "NATS_URL", "NATS_CLIENT_NAME", "INBOUND_STREAM", "INBOUND_SUBJECT", "INBOUND_GROUP",
    "FABRIC_DEFAULT_MEASURE_UNIT", "FABRIC_DEFAULT_OFFER_STATUS", "OUTBOUND_SUBJECT"]

/-- the variables that matter -/
def variableNames : List String := checked ++ free

/-- A variable has a problem, and this is the complaint about it. -/
inductive Problem (lookup : Lookup) : String → String → Prop where
  | missing (h : Unset lookup "POSTGRES_URI") :
      Problem lookup "POSTGRES_URI" "POSTGRES_URI is not set"
  | count {key raw : String} (hkey : key ∈ counts) (h : SetTo lookup key raw)
      (hraw : ∀ n, ¬ TellsCount raw n) :
      Problem lookup key (key ++ " must be a number, got " ++ Text.quoted raw)
  | timeout {key raw : String} (hkey : key ∈ timeouts) (h : SetTo lookup key raw)
      (hraw : ∀ d, Duration.parse? raw ≠ some d) :
      Problem lookup key
        (key ++ " must be a duration like 30s, 15m or 1h, got " ++ Text.quoted raw)

/-- One of the variables has a problem, and those before it have none. -/
def FirstProblem (lookup : Lookup) (keys : List String) (reason : String) : Prop :=
  ∃ earlier key later, keys = earlier ++ key :: later ∧
    (∀ k ∈ earlier, ∀ r, ¬ Problem lookup k r) ∧ Problem lookup key reason

/-- The settings are what the variables say, with the defaults for what they do not say. -/
structure Describes (lookup : Lookup) (s : Settings) : Prop where
  environment : Takes lookup "ENV" Eq "development" s.environment
  servers : Takes lookup "NATS_URL" TellsServers ["nats://localhost:4222"] s.broker.servers
  name : Takes lookup "NATS_CLIENT_NAME" Eq "fabric-sync" s.broker.name
  connectTimeout : s.broker.connectTimeout = ⟨10⟩
  requestTimeout : s.broker.requestTimeout = ⟨5⟩
  url : SetTo lookup "POSTGRES_URI" s.database.url
  maxConnections : Takes lookup "POSTGRES_OPEN_CONNS" TellsCount 25 s.database.maxConnections
  minConnections : Takes lookup "POSTGRES_IDLE_CONNS" TellsCount 25 s.database.minConnections
  idleTimeout : Takes lookup "POSTGRES_IDLE_TIME" (fun raw d => Duration.parse? raw = some d) ⟨900⟩
    s.database.idleTimeout
  acquireTimeout : s.database.acquireTimeout = ⟨5⟩
  streamName : Takes lookup "INBOUND_STREAM" Eq "ERP_EVENTS" s.feed.streamName
  streamSubjects : s.feed.streamSubjects = ["erp.>"]
  subject : Takes lookup "INBOUND_SUBJECT" Eq "erp.*" s.feed.subject
  group : Takes lookup "INBOUND_GROUP" Eq "erp-service-group" s.feed.group
  commandTimeout : Takes lookup "COMMAND_TIMEOUT" (fun raw d => Duration.parse? raw = some d) ⟨10⟩
    s.feed.commandTimeout
  measureUnit : Takes lookup "FABRIC_DEFAULT_MEASURE_UNIT" Eq "MB" s.feedDefaults.measureUnit
  offerStatus : Takes lookup "FABRIC_DEFAULT_OFFER_STATUS" Eq "ACTIVE" s.feedDefaults.offerStatus
  outboundSubject : Takes lookup "OUTBOUND_SUBJECT" Eq "app.fabric" s.outboundSubject

variable {lookup lookup' : Lookup} {key reason : String} {keys : List String} {α β : Type}

/-! ### One variable after the other -/

/-- the settings, once the variables that are checked have been read -/
def assemble (lookup : Lookup) (url : String) (maxConnections minConnections : ℕ)
    (idleTimeout commandTimeout : Duration) : Settings where
  environment := textOr lookup "ENV" "development"
  broker := {
    servers := ((get lookup "NATS_URL").map splitServers).getD ["nats://localhost:4222"]
    name := textOr lookup "NATS_CLIENT_NAME" "fabric-sync" }
  database := { url, maxConnections, minConnections, idleTimeout }
  feed := {
    streamName := textOr lookup "INBOUND_STREAM" "ERP_EVENTS"
    subject := textOr lookup "INBOUND_SUBJECT" "erp.*"
    group := textOr lookup "INBOUND_GROUP" "erp-service-group"
    commandTimeout }
  feedDefaults := {
    measureUnit := textOr lookup "FABRIC_DEFAULT_MEASURE_UNIT" "MB"
    offerStatus := textOr lookup "FABRIC_DEFAULT_OFFER_STATUS" "ACTIVE" }
  outboundSubject := textOr lookup "OUTBOUND_SUBJECT" "app.fabric"

theorem load_eq (lookup : Lookup) : load lookup = do
    let url ← databaseUrl lookup
    let maxConnections ← countOr lookup "POSTGRES_OPEN_CONNS" 25
    let minConnections ← countOr lookup "POSTGRES_IDLE_CONNS" 25
    let idleTimeout ← durationOr lookup "POSTGRES_IDLE_TIME" ⟨900⟩
    let commandTimeout ← durationOr lookup "COMMAND_TIMEOUT" ⟨10⟩
    return assemble lookup url maxConnections minConnections idleTimeout commandTimeout := by
  simp only [load, databaseSettings, feedSettings, bind_assoc, pure_bind]
  rfl

theorem firstProblem_nil : ¬ FirstProblem lookup [] reason := by
  rintro ⟨earlier, key, later, h, -⟩
  simp at h

theorem firstProblem_cons : FirstProblem lookup (key :: keys) reason ↔
    Problem lookup key reason ∨
      (∀ r, ¬ Problem lookup key r) ∧ FirstProblem lookup keys reason := by
  constructor
  · rintro ⟨earlier, k, later, hkeys, hearlier, h⟩
    cases earlier with
    | nil =>
      obtain ⟨rfl, -⟩ := List.cons.inj hkeys
      exact Or.inl h
    | cons k' earlier =>
      obtain ⟨rfl, rfl⟩ := List.cons.inj hkeys
      obtain ⟨hk, hearlier⟩ := List.forall_mem_cons.mp hearlier
      exact Or.inr ⟨hk, earlier, k, later, rfl, hearlier, h⟩
  · rintro (h | ⟨hk, earlier, k, later, rfl, hearlier, h⟩)
    · exact ⟨[], key, keys, rfl, nofun, h⟩
    · exact ⟨key :: earlier, k, later, rfl, List.forall_mem_cons.mpr ⟨hk, hearlier⟩, h⟩

/-- The errors of a computation are the complaints about one variable. -/
def Checks (lookup : Lookup) (key : String) (x : Except InfrastructureError α) : Prop :=
  ∀ e, x = .error e ↔ ∃ reason, e = .configuration reason ∧ Problem lookup key reason

/-- The error of a computation is the complaint about the first variable with a problem. -/
def ChecksInTurn (lookup : Lookup) (keys : List String) (x : Except InfrastructureError α) : Prop :=
  ∀ e, x = .error e ↔ ∃ reason, e = .configuration reason ∧ FirstProblem lookup keys reason

theorem checksInTurn_ok (a : α) : ChecksInTurn lookup [] (.ok a) := by
  intro e
  simp [firstProblem_nil]

theorem Checks.bind {x : Except InfrastructureError α} {f : α → Except InfrastructureError β}
    (hx : Checks lookup key x) (hf : ∀ a, ChecksInTurn lookup keys (f a)) :
    ChecksInTurn lookup (key :: keys) (x >>= f) := by
  intro e
  simp only [firstProblem_cons]
  cases x with
  | error err =>
    obtain ⟨r, rfl, hr⟩ := (hx err).mp rfl
    rw [error_bind]
    constructor
    · rintro ⟨⟩
      exact ⟨r, rfl, Or.inl hr⟩
    · rintro ⟨reason, rfl, h | ⟨hno, -⟩⟩
      · -- a variable has one complaint at most, since the computation has one error
        cases (hx _).mpr ⟨reason, rfl, h⟩
        rfl
      · exact absurd hr (hno r)
  | ok a =>
    have hno : ∀ r, ¬ Problem lookup key r := fun r hr => by
      cases (hx _).mpr ⟨r, rfl, hr⟩
    rw [ok_bind, hf a e]
    simp [hno]

theorem checks_databaseUrl (lookup : Lookup) :
    Checks lookup "POSTGRES_URI" (databaseUrl lookup) := by
  intro e
  unfold databaseUrl bad
  constructor
  · intro h
    split at h
    · cases h
    · next hget =>
      cases h
      exact ⟨_, rfl, .missing (get_eq_none_iff.mp hget)⟩
  · rintro ⟨reason, rfl, h⟩
    cases h with
    | missing h => rw [get_eq_none_iff.mpr h]
    | count hkey => exact absurd hkey (by decide)
    | timeout hkey => exact absurd hkey (by decide)

theorem not_mem_timeouts : ∀ key ∈ counts, key ∉ timeouts := by decide

theorem checks_countOr (hkey : key ∈ counts) (n : ℕ) :
    Checks lookup key (countOr lookup key n) := by
  intro e
  rw [countOr_eq, readOr_eq_error_iff fun _ _ => readCount?_eq_some_iff]
  constructor
  · rintro ⟨raw, h, hraw, rfl⟩
    exact ⟨_, rfl, .count hkey h hraw⟩
  · rintro ⟨reason, rfl, h⟩
    cases h with
    | missing => exact absurd hkey (by decide)
    | count _ h hraw => exact ⟨_, h, hraw, rfl⟩
    | timeout hkey' => exact absurd hkey' (not_mem_timeouts key hkey)

theorem checks_durationOr (hkey : key ∈ timeouts) (d : Duration) :
    Checks lookup key (durationOr lookup key d) := by
  intro e
  rw [durationOr_eq, readOr_eq_error_iff fun _ _ => Iff.rfl]
  constructor
  · rintro ⟨raw, h, hraw, rfl⟩
    exact ⟨_, rfl, .timeout hkey h hraw⟩
  · rintro ⟨reason, rfl, h⟩
    cases h with
    | missing => exact absurd hkey (by decide)
    | count hkey' => exact absurd hkey (not_mem_timeouts key hkey')
    | timeout _ h hraw => exact ⟨_, h, hraw, rfl⟩

/-- **The complaint is about the first variable with a problem.** -/
theorem checksInTurn_load (lookup : Lookup) : ChecksInTurn lookup checked (load lookup) := by
  rw [load_eq]
  exact (checks_databaseUrl lookup).bind fun _ =>
    (checks_countOr (by decide) 25).bind fun _ =>
    (checks_countOr (by decide) 25).bind fun _ =>
    (checks_durationOr (by decide) ⟨900⟩).bind fun _ =>
    (checks_durationOr (by decide) ⟨10⟩).bind fun _ => checksInTurn_ok _

/-! ### What is loaded -/

theorem databaseUrl_eq_ok_iff {url : String} :
    databaseUrl lookup = .ok url ↔ SetTo lookup "POSTGRES_URI" url := by
  rw [← get_eq_some_iff, databaseUrl]
  cases get lookup "POSTGRES_URI" <;> simp [bad]

theorem countOr_eq_ok_iff {default n : ℕ} :
    countOr lookup key default = .ok n ↔ Takes lookup key TellsCount default n := by
  rw [countOr_eq]
  exact readOr_eq_ok_iff fun _ _ => readCount?_eq_some_iff

theorem durationOr_eq_ok_iff {default d : Duration} : durationOr lookup key default = .ok d ↔
    Takes lookup key (fun raw d => Duration.parse? raw = some d) default d := by
  rw [durationOr_eq]
  exact readOr_eq_ok_iff fun _ _ => Iff.rfl

theorem load_eq_ok_iff {s : Settings} : load lookup = .ok s ↔
    ∃ url, SetTo lookup "POSTGRES_URI" url ∧
    ∃ maxConnections, Takes lookup "POSTGRES_OPEN_CONNS" TellsCount 25 maxConnections ∧
    ∃ minConnections, Takes lookup "POSTGRES_IDLE_CONNS" TellsCount 25 minConnections ∧
    ∃ idleTimeout, Takes lookup "POSTGRES_IDLE_TIME"
      (fun raw d => Duration.parse? raw = some d) ⟨900⟩ idleTimeout ∧
    ∃ commandTimeout, Takes lookup "COMMAND_TIMEOUT"
      (fun raw d => Duration.parse? raw = some d) ⟨10⟩ commandTimeout ∧
    assemble lookup url maxConnections minConnections idleTimeout commandTimeout = s := by
  simp only [load_eq, bind_eq_ok_iff, databaseUrl_eq_ok_iff, countOr_eq_ok_iff,
    durationOr_eq_ok_iff, pure_eq_ok, Except.ok.injEq]

/-- **The settings that are loaded.** -/
theorem load_eq_ok_iff_describes {s : Settings} : load lookup = .ok s ↔ Describes lookup s := by
  rw [load_eq_ok_iff]
  constructor
  · rintro ⟨url, hurl, maxConnections, hmax, minConnections, hmin, idleTimeout, hidle,
      commandTimeout, hcommand, rfl⟩
    exact {
      environment := textOr_eq_iff.mp rfl
      servers := (getD_map_get_eq_iff fun _ _ => splitServers_eq_iff).mp rfl
      name := textOr_eq_iff.mp rfl
      connectTimeout := rfl
      requestTimeout := rfl
      url := hurl
      maxConnections := hmax
      minConnections := hmin
      idleTimeout := hidle
      acquireTimeout := rfl
      streamName := textOr_eq_iff.mp rfl
      streamSubjects := rfl
      subject := textOr_eq_iff.mp rfl
      group := textOr_eq_iff.mp rfl
      commandTimeout := hcommand
      measureUnit := textOr_eq_iff.mp rfl
      offerStatus := textOr_eq_iff.mp rfl
      outboundSubject := textOr_eq_iff.mp rfl }
  · intro h
    -- the constants of the settings are replaced before the rest is put together
    obtain ⟨_, ⟨_, _, _, _⟩, ⟨_, _, _, _, _⟩, ⟨_, _, _, _, _⟩, ⟨_, _⟩, _⟩ := s
    obtain rfl := h.connectTimeout
    obtain rfl := h.requestTimeout
    obtain rfl := h.acquireTimeout
    obtain rfl := h.streamSubjects
    refine ⟨_, h.url, _, h.maxConnections, _, h.minConnections, _, h.idleTimeout, _,
      h.commandTimeout, ?_⟩
    rw [assemble, textOr_eq_iff.mpr h.environment, textOr_eq_iff.mpr h.name,
      (getD_map_get_eq_iff fun _ _ => splitServers_eq_iff).mpr h.servers,
      textOr_eq_iff.mpr h.streamName, textOr_eq_iff.mpr h.subject, textOr_eq_iff.mpr h.group,
      textOr_eq_iff.mpr h.measureUnit, textOr_eq_iff.mpr h.offerStatus,
      textOr_eq_iff.mpr h.outboundSubject]
    rfl

/-- Settings are loaded exactly when no variable that is checked has a problem. -/
theorem exists_load_eq_ok_iff : (∃ s, load lookup = .ok s) ↔
    (∃ url, SetTo lookup "POSTGRES_URI" url) ∧
    (∀ key ∈ counts, ∀ raw, SetTo lookup key raw → ∃ n, TellsCount raw n) ∧
    ∀ key ∈ timeouts, ∀ raw, SetTo lookup key raw → ∃ d, Duration.parse? raw = some d := by
  constructor
  · rintro ⟨s, hs⟩
    obtain ⟨url, hurl, _, hmax, _, hmin, _, hidle, _, hcommand, -⟩ := load_eq_ok_iff.mp hs
    refine ⟨⟨url, hurl⟩, List.forall_mem_cons.mpr ⟨?_, List.forall_mem_singleton.mpr ?_⟩,
      List.forall_mem_cons.mpr ⟨?_, List.forall_mem_singleton.mpr ?_⟩⟩
    · exact exists_takes_iff.mp ⟨_, hmax⟩
    · exact exists_takes_iff.mp ⟨_, hmin⟩
    · exact exists_takes_iff.mp ⟨_, hidle⟩
    · exact exists_takes_iff.mp ⟨_, hcommand⟩
  · rintro ⟨⟨url, hurl⟩, hcounts, htimeouts⟩
    obtain ⟨_, hmax⟩ := exists_takes_iff.mpr (hcounts "POSTGRES_OPEN_CONNS" (by decide))
    obtain ⟨_, hmin⟩ := exists_takes_iff.mpr (hcounts "POSTGRES_IDLE_CONNS" (by decide))
    obtain ⟨_, hidle⟩ := exists_takes_iff.mpr (htimeouts "POSTGRES_IDLE_TIME" (by decide))
    obtain ⟨_, hcommand⟩ := exists_takes_iff.mpr (htimeouts "COMMAND_TIMEOUT" (by decide))
    exact ⟨_, load_eq_ok_iff.mpr ⟨url, hurl, _, hmax, _, hmin, _, hidle, _, hcommand, rfl⟩⟩

/-- Variables that are not among the fourteen do not matter, and neither do blanks. -/
theorem load_congr (h : ∀ key ∈ variableNames, get lookup' key = get lookup key) :
    load lookup' = load lookup := by
  simp (disch := decide) only [load_eq, databaseUrl, countOr, durationOr, assemble, textOr, h]

/-- **The settings are determined by fourteen variables**, and one that holds nothing but white
space counts as not set. They are loaded exactly when the address of the database is set, the
numbers of connections are numbers below 2^32, and the timeouts are durations, as far as they are
set. Otherwise the error is the complaint about the first variable with a problem, in the order of
`checked`. The settings that are loaded have every text as it is set, the addresses of the broker
cut at every comma and trimmed, what is told by numbers and durations, and the defaults. -/
theorem load_determined (lookup : Lookup) :
    (∀ lookup' : Lookup,
      (∀ key ∈ variableNames, ∀ raw, SetTo lookup' key raw ↔ SetTo lookup key raw) →
        load lookup' = load lookup) ∧
    ((∃ s, load lookup = .ok s) ↔
      (∃ url, SetTo lookup "POSTGRES_URI" url) ∧
      (∀ key ∈ counts, ∀ raw, SetTo lookup key raw → ∃ n, TellsCount raw n) ∧
      ∀ key ∈ timeouts, ∀ raw, SetTo lookup key raw → ∃ d, Duration.parse? raw = some d) ∧
    (∀ e, load lookup = .error e ↔
      ∃ reason, e = .configuration reason ∧ FirstProblem lookup checked reason) ∧
    ∀ s, load lookup = .ok s ↔ Describes lookup s :=
  ⟨fun _ h => load_congr fun key hkey => get_congr (h key hkey), exists_load_eq_ok_iff,
    checksInTurn_load lookup, fun _ => load_eq_ok_iff_describes⟩

end FabricRegistry.Settings

import FabricRegistry.Duration
import FabricRegistry.Infrastructure
import FabricRegistry.Subject
import FabricRegistry.Text.LetterCase
import FabricRegistry.Text.Quoted
import FabricRegistry.Text.Segments

/-!
Settings of the registry, from variables by name. A variable that holds nothing but blanks counts as
not set; every setting but the address of the database has a default.
-/

namespace FabricRegistry

/-- how to reach the message broker -/
structure BrokerSettings where
  servers : List String := ["nats://localhost:4222"]
  /-- the name under which the registry connects -/
  name : String := "fabric-sync"
  connectTimeout : Duration := ⟨10⟩
  requestTimeout : Duration := ⟨5⟩
  deriving DecidableEq, Repr

/-- how to reach the database -/
structure DatabaseSettings where
  url : String
  maxConnections : Nat := 25
  /-- connections kept open while idle -/
  minConnections : Nat := 25
  idleTimeout : Duration := ⟨900⟩
  /-- how long to wait for a free connection -/
  acquireTimeout : Duration := ⟨5⟩
  deriving DecidableEq, Repr

/-- where the ERP feed comes from -/
structure FeedSettings where
  streamName : String := "ERP_EVENTS"
  streamSubjects : List String := [Namespace.erp.everything]
  /-- the subjects that are listened to -/
  subject : String := Namespace.erp.wildcard
  /-- the durable consumer that all instances share -/
  group : String := "erp-service-group"
  commandTimeout : Duration := ⟨10⟩
  deriving DecidableEq, Repr

/-- what stands in for attributes that the ERP system leaves out -/
structure FeedDefaults where
  measureUnit : String := "MB"
  offerStatus : String := "ACTIVE"
  deriving DecidableEq, Repr

/-- all settings -/
structure Settings where
  environment : String
  broker : BrokerSettings
  database : DatabaseSettings
  feed : FeedSettings
  feedDefaults : FeedDefaults
  /-- the channel of what is recorded here -/
  outboundSubject : String
  deriving DecidableEq, Repr

namespace Settings

/-- the variables by name -/
abbrev Lookup : Type := String → Option String

/-- a variable that is set to more than blanks -/
def get (lookup : Lookup) (key : String) : Option String :=
  (lookup key).filter fun raw => !Text.allBlank raw.toList

def textOr (lookup : Lookup) (key default : String) : String := (get lookup key).getD default

def bad {α : Type} (reason : String) : Except InfrastructureError α :=
  .error (.configuration reason)

/-- a number below 2^32 between blanks -/
def readCount? (raw : String) : Option Nat := Text.readBelow? UInt32.size (Text.trim raw.toList)

/-- a number, or its default if the variable is not set -/
def countOr (lookup : Lookup) (key : String) (default : Nat) : Except InfrastructureError Nat :=
  match get lookup key with
  | none => .ok default
  | some raw =>
    match readCount? raw with
    | some n => .ok n
    | none => bad (key ++ " must be a number, got " ++ Text.quoted raw)

/-- a duration, or its default if the variable is not set -/
def durationOr (lookup : Lookup) (key : String) (default : Duration) :
    Except InfrastructureError Duration :=
  match get lookup key with
  | none => .ok default
  | some raw =>
    match Duration.parse? raw with
    | some d => .ok d
    | none => bad (key ++ " must be a duration like 30s, 15m or 1h, got " ++ Text.quoted raw)

/-- the address of the database, which has no default -/
def databaseUrl (lookup : Lookup) : Except InfrastructureError String :=
  match get lookup "POSTGRES_URI" with
  | some url => .ok url
  | none => bad "POSTGRES_URI is not set"

/-- addresses between commas, without the blanks around them -/
def splitServers (raw : String) : List String :=
  (Text.split ',' raw.toList).map fun piece => String.ofList (Text.trim piece)

/-- the settings for the message broker -/
def brokerSettings (lookup : Lookup) : BrokerSettings :=
  let default : BrokerSettings := {}
  { default with
    servers := ((get lookup "NATS_URL").map splitServers).getD default.servers
    name := textOr lookup "NATS_CLIENT_NAME" default.name }

def databaseSettings (lookup : Lookup) : Except InfrastructureError DatabaseSettings := do
  let url ← databaseUrl lookup
  let default : DatabaseSettings := { url }
  let maxConnections ← countOr lookup "POSTGRES_OPEN_CONNS" default.maxConnections
  let minConnections ← countOr lookup "POSTGRES_IDLE_CONNS" default.minConnections
  let idleTimeout ← durationOr lookup "POSTGRES_IDLE_TIME" default.idleTimeout
  return { default with maxConnections, minConnections, idleTimeout }

/-- the settings for the ERP feed -/
def feedSettings (lookup : Lookup) : Except InfrastructureError FeedSettings := do
  let default : FeedSettings := {}
  let commandTimeout ← durationOr lookup "COMMAND_TIMEOUT" default.commandTimeout
  return { default with
    streamName := textOr lookup "INBOUND_STREAM" default.streamName
    subject := textOr lookup "INBOUND_SUBJECT" default.subject
    group := textOr lookup "INBOUND_GROUP" default.group
    commandTimeout }

def standIns (lookup : Lookup) : FeedDefaults :=
  let default : FeedDefaults := {}
  { measureUnit := textOr lookup "FABRIC_DEFAULT_MEASURE_UNIT" default.measureUnit
    offerStatus := textOr lookup "FABRIC_DEFAULT_OFFER_STATUS" default.offerStatus }

/-- the settings that the variables give -/
def load (lookup : Lookup) : Except InfrastructureError Settings := do
  let database ← databaseSettings lookup
  let feed ← feedSettings lookup
  return {
    environment := textOr lookup "ENV" "development"
    broker := brokerSettings lookup
    database
    feed
    feedDefaults := standIns lookup
    outboundSubject := textOr lookup "OUTBOUND_SUBJECT" Subject.outbound }

/-- the environment is `development`, in letters of either case -/
def isDevelopment (s : Settings) : Bool :=
  s.environment.toList.map Text.lowerAscii = "development".toList

end Settings

end FabricRegistry

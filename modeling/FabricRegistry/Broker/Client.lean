import FabricRegistry.Broker.Address
import FabricRegistry.Dialogue
import FabricRegistry.Publication
import FabricRegistry.Settings

/-!
What the registry asks of the message broker, connecting to it, and publishing through it.
-/

namespace FabricRegistry.Broker

/-- why a connection to the broker fails -/
inductive DialFailure where
  /-- nobody listens there -/
  | unreachable
  /-- the broker turns the client away -/
  | refused (reason : String)
  deriving DecidableEq, Repr

def DialFailure.message : DialFailure → String
  | unreachable => "IO error: Connection refused (os error 111)"
  | refused reason =>
    let reason := String.ofList (Text.lower reason.toList)
    if reason = "authorization violation" then
      "authorization violation: nats: authorization violation"
    else s!"IO error: nats: {reason}"

/-- an error reply of the broker's administration -/
structure ApiError where
  code : Nat
  errorCode : Nat
  description : String
  deriving DecidableEq, Repr

def ApiError.message (e : ApiError) : String :=
  let code := toString e.code
  let errorCode := toString e.errorCode
  code ++ " (code " ++ e.description ++ ", error code " ++ errorCode ++ ")"

/-- a stream that captures subjects -/
structure StreamConfig where
  name : String
  subjects : List String
  deriving DecidableEq, Repr

/-- a durable consumer whose messages are acknowledged one by one -/
structure ConsumerConfig where
  stream : String
  durableName : String
  filterSubject : String
  deriving DecidableEq, Repr

/-- a consumer as the broker has it -/
structure ConsumerInfo where
  /-- the subject that messages are pushed to -/
  deliverSubject : Option String := none
  deriving DecidableEq, Repr

/-- what is asked of the broker -/
inductive Ask where
  | dial (servers name : String)
  | send (subject : String) (payload : ByteArray)
  | flush
  | streamInfo (name : String)
  | streamCreate (config : StreamConfig)
  | consumerInfo (stream name : String)
  | consumerCreate (config : ConsumerConfig)
  /-- a request for messages of a consumer -/
  | pull (stream name : String)

abbrev Reply : Ask → Type
  | .dial _ _ => Except DialFailure Unit
  | .send _ _ => Except String Unit
  | .flush => Except String Unit
  | .streamInfo _ => Except ApiError Unit
  | .streamCreate _ => Except ApiError Unit
  | .consumerInfo _ _ => Except ApiError ConsumerInfo
  | .consumerCreate _ => Except ApiError ConsumerInfo
  | .pull _ _ => Except String Unit

abbrev Session (α : Type) : Type := Dialogue Reply α

/-- A connection to the broker. The servers are taken for one address. -/
def connect (s : BrokerSettings) : Session (Except InfrastructureError Unit) :=
  let servers := ",".intercalate s.servers
  match addressProblem? servers with
  | some reason =>
    .done (.error (.natsConnection ("failed to parse server or server list: " ++ reason)))
  | none =>
    .ask (.dial servers s.name) fun
      | .error f => .done (.error (.natsConnection f.message))
      | .ok _ => .remark ⟨.info, "Connected to NATS"⟩ (.done (.ok ()))

def publishBytes (subject : String) (payload : ByteArray) :
    Session (Except InfrastructureError Unit) :=
  .ask (.send subject payload) fun
    | .error reason => .done (.error (.natsPublish reason))
    | .ok _ => .remark ⟨.debug, "Published message"⟩ (.done (.ok ()))

/-- everything sent so far is on its way -/
def flush : Session (Except InfrastructureError Unit) :=
  .ask .flush fun
    | .error reason => .done (.error (.natsPublish reason))
    | .ok _ => .done (.ok ())

/-- the publication of an envelope as JSON -/
def publish (subject : String) (e : Envelope) : Session (Except PublishError Unit) :=
  match e.publishable with
  | .error err => .done (.error err)
  | .ok _ =>
    (publishBytes subject e.bytes).bind fun
      | .error err => .done (.error (.transport err.message))
      | .ok _ => .remark ⟨.debug, "Published event"⟩ (.done (.ok ()))

end FabricRegistry.Broker

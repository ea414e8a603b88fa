import FabricRegistry.Broker.Client
import FabricRegistry.Inbound.Router

/-!
The listener of the ERP feed. Before it listens, it makes sure of the stream and of the durable
consumer that all instances share. Then it takes one message after the other: each is handled once,
and settled once its handling is over and before the next is taken.
-/

namespace FabricRegistry.Inbound

open FabricRegistry.Broker (ApiError ConsumerConfig ConsumerInfo StreamConfig)

namespace Listener

/-- a result of setting the listener up -/
abbrev Setup (α : Type) : Type := Broker.Session (Except InfrastructureError α)

/-- a name that the broker takes for a stream -/
def isStreamName (name : String) : Bool :=
  name.toList.all fun c =>
    !(c = ' ' || c = '\t' || c = '\n' || c = '\x0c' || c = '\r' || c = '.' || c = '*' || c = '>')

/-- an error of the broker about a stream -/
def streamFailure (e : ApiError) : InfrastructureError :=
  .jetStream ("jetstream error: " ++ e.message)

/-- an error of the broker about a consumer -/
def consumerFailure (e : ApiError) : InfrastructureError :=
  .jetStream ("JetStream error: " ++ e.message)

/-- the stream, made unless it is there -/
def ensureStream (config : StreamConfig) : Setup Unit :=
  if config.name = "" then .done (.error (.jetStream "stream name cannot be empty"))
  else if !isStreamName config.name then
    .done (.error (.jetStream "stream name cannot contain `.`, `_`"))
  else
    .ask (.streamInfo config.name) fun
      | .ok _ => .done (.ok ())
      | .error e =>
        if e.code = 404 then
          .ask (.streamCreate config) fun
            | .ok _ => .done (.ok ())
            | .error e => .done (.error (streamFailure e))
        else .done (.error (streamFailure e))

/-- a consumer whose messages are pulled -/
def checkPull (info : ConsumerInfo) : Except InfrastructureError Unit :=
  if info.deliverSubject.isSome then
    .error (.jetStream "invalid consumer type: pull consumer cannot have delivery subject")
  else .ok ()

/-- the consumer, made unless it is there -/
def ensureConsumer (config : ConsumerConfig) : Setup Unit :=
  .ask (.consumerInfo config.stream config.durableName) fun
    | .ok info => .done (checkPull info)
    | .error e =>
      if e.code = 404 then
        .ask (.consumerCreate config) fun
          | .ok info => .done (checkPull info)
          | .error e => .done (.error (consumerFailure e))
      else .done (.error (consumerFailure e))

/-- everything up to the first request for messages -/
def start (s : FeedSettings) : Setup Unit :=
  (ensureStream ⟨s.streamName, s.streamSubjects⟩).bind fun
    | .error e => .done (.error e)
    | .ok _ =>
      (ensureConsumer ⟨s.streamName, s.group, s.subject⟩).bind fun
        | .error e => .done (.error e)
        | .ok _ =>
          .ask (.pull s.streamName s.group) fun
            | .error reason => .done (.error (.natsSubscribe reason))
            | .ok _ => .remark ⟨.info, "Started inbound listener"⟩ (.done (.ok ()))

end Listener

/-- what comes to a listener, in the order in which it notices -/
inductive Arrival where
  | message (m : Message)
  /-- the feed fails to bring a message -/
  | receiveError
  /-- the feed is over -/
  | endOfFeed
  /-- shutdown is requested, or nobody is left to request it -/
  | shutdown

namespace Listener

/-- what a listener asks for with each message -/
inductive Ask where
  | handle (m : Message)
  | settle (m : Message) (d : Disposition)

/-- the replies; a settlement may fail to reach the broker -/
abbrev Reply : Ask → Type
  | .handle _ => Handled
  | .settle _ _ => Bool

/-- how listening ends -/
inductive Ending where
  | stopped
  /-- everything that came is dealt with -/
  | waiting
  deriving DecidableEq, Repr

/-- a message from its arrival to its settlement -/
def process (m : Message) (rest : Dialogue Reply Ending) : Dialogue Reply Ending :=
  .remark ⟨.debug, "Received message"⟩ <|
  .ask (.handle m) fun result =>
    let settled : Dialogue Reply Ending :=
      .ask (.settle m (.of result)) fun
        | true => rest
        | false => .remark ⟨.warn, "Failed to acknowledge message"⟩ rest
    match result with
    | .ok _ => settled
    | .error _ => .remark ⟨.error, "Handler failed; message will be redelivered"⟩ settled

def stop : Dialogue Reply Ending :=
  .remark ⟨.warn, "Inbound listener stopped"⟩ (.done .stopped)

/-- the dealing with everything that comes, until the feed is over or shutdown is noticed -/
def listen : List Arrival → Dialogue Reply Ending
  | [] => .done .waiting
  | .message m :: rest => process m (listen rest)
  | .receiveError :: rest => .remark ⟨.warn, "Error receiving message"⟩ (listen rest)
  | .endOfFeed :: _ => stop
  | .shutdown :: _ => .remark ⟨.info, "Shutdown requested; leaving inbound loop"⟩ stop

end Listener

end FabricRegistry.Inbound

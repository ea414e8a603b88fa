import FabricRegistry.Inbound.Listener
import FabricRegistry.Rehearsal.Session

/-!
Rehearsals against a message broker that replies as it is told: connecting, sending, and listening
to a feed.
-/

namespace FabricRegistry.Rehearsal

open FabricRegistry.Broker (ApiError Ask ConsumerInfo DialFailure)
open FabricRegistry.Inbound (Arrival Disposition Message)

/-- a broker that takes what it is sent -/
structure Wire where
  /-- why it turns clients away -/
  refusal : Option DialFailure := none
  /-- the names under which clients connected -/
  clients : List String := []
  sent : List (String × ByteArray) := []
  log : List Remark := []

namespace Wire

/-- a remark at the end of the log -/
def note (r : Remark) (w : Wire) : Wire := { w with log := w.log ++ [r] }

def answer (q : Ask) (w : Wire) : Broker.Reply q × Wire :=
  match q with
  | .dial _ name =>
    match w.refusal with
    | some f => (.error f, w)
    | none => (.ok (), { w with clients := w.clients ++ [name] })
  | .send subject payload => (.ok (), { w with sent := w.sent ++ [(subject, payload)] })
  | .flush => (.ok (), w)
  | .streamInfo _ => (.ok (), w)
  | .streamCreate _ => (.ok (), w)
  | .consumerInfo _ _ => (.ok {}, w)
  | .consumerCreate _ => (.ok {}, w)
  | .pull _ _ => (.ok (), w)

end Wire

/-- a step with a connected broker -/
inductive WireStep where
  | sendBytes (subject : String) (payload : ByteArray)
  /-- the publication of an envelope given in JSON -/
  | publish (subject envelope : String)
  | flush

/-- what a step with a broker comes to -/
inductive WireAnswer where
  | infrastructure (r : Except InfrastructureError Unit)
  | publication (r : Except PublishError Unit)
  | undecodable

/-- one step with a connected broker -/
def WireStep.perform (w : Wire) : WireStep → WireAnswer × Wire
  | .sendBytes subject payload =>
    let (r, w) := (Broker.publishBytes subject payload).run Wire.answer Wire.note w
    (.infrastructure r, w)
  | .publish subject envelope =>
    match Envelope.ofText? envelope with
    | none => (.undecodable, w)
    | some e =>
      let (r, w) := (Broker.publish subject e).run Wire.answer Wire.note w
      (.publication r, w)
  | .flush =>
    let (r, w) := Broker.flush.run Wire.answer Wire.note w
    (.infrastructure r, w)

/-- the attempt to connect, and the broker after it -/
def connectTo (s : BrokerSettings) (refusal : Option DialFailure) :
    Except InfrastructureError Unit × Wire :=
  (Broker.connect s).run Wire.answer Wire.note { refusal }

/-- steps with a connected broker, each with what was sent and remarked during it -/
def performWireSteps (w : Wire) (steps : List WireStep) : List (WireAnswer × Wire) :=
  (steps.foldl
    (fun (played, w) step =>
      let (a, w) := step.perform { w with sent := [], log := [] }
      (played ++ [(a, w)], w))
    ([], w)).1

/-- how a broker replies to the requests of a starting listener -/
structure Administration where
  streamInfo : Except ApiError Unit := .error ⟨404, 10059, "stream not found"⟩
  streamCreate : Except ApiError Unit := .ok ()
  consumerInfo : Except ApiError ConsumerInfo := .error ⟨404, 10014, "consumer not found"⟩
  consumerCreate : Except ApiError ConsumerInfo := .ok {}

/-- an item of a feed -/
inductive Item where
  /-- a message, which cannot be acknowledged without an address to reply to -/
  | message (m : Message) (noReply : Bool)
  /-- a status of the broker -/
  | status (text : String)

/-- how a feed goes on behind its last item -/
inductive FeedEnd where
  /-- shutdown is requested, or nobody is left to request it -/
  | shutdown
  | nothing
  deriving DecidableEq, Repr

/-- What a status means to a listener. The statuses of a running feed mean nothing, unless the
consumer is gone or of the wrong kind. -/
def arrivalsOfStatus (text : String) : List Arrival :=
  if text = "409 Consumer Deleted" ∨ text = "409 Consumer is push based" then
    [.receiveError, .endOfFeed]
  else if ["100", "408", "409"].contains (String.ofList (text.toList.takeWhile (· ≠ ' '))) then []
  else [.receiveError]

/-- what comes to a listener from the items of a feed -/
def arrivals (items : List Item) (last : FeedEnd) : List Arrival :=
  (items.flatMap fun
    | .message m _ => [.message m]
    | .status text => arrivalsOfStatus text) ++
  match last with
  | .shutdown => [.shutdown]
  | .nothing => []

/-- a listener at work: the registry, and what it asked of the broker -/
structure Listening where
  world : World
  requests : List Ask := []
  settled : List (Nat × Disposition) := []
  /-- for each message still to be settled, whether it cannot be acknowledged -/
  noReplies : List Bool := []
  /-- how many messages are settled -/
  count : Nat := 0

namespace Listening

/-- a remark at the end of the log -/
def note (r : Remark) (l : Listening) : Listening := { l with world := l.world.note r }

/-- the replies to a starting listener -/
def administer (admin : Administration) (q : Ask) (l : Listening) : Broker.Reply q × Listening :=
  let l := { l with requests := l.requests ++ [q] }
  match q with
  | .dial _ _ => (.ok (), l)
  | .send _ _ => (.ok (), l)
  | .flush => (.ok (), l)
  | .streamInfo _ => (admin.streamInfo, l)
  | .streamCreate _ => (admin.streamCreate, l)
  | .consumerInfo _ _ => (admin.consumerInfo, l)
  | .consumerCreate _ => (admin.consumerCreate, l)
  | .pull _ _ => (.ok (), l)

/-- the replies to a listener that deals with messages -/
def answer (setup : Setup) (q : Inbound.Listener.Ask) (l : Listening) :
    Inbound.Listener.Reply q × Listening :=
  match q with
  | .handle m =>
    let (r, world) := (inRouter setup l.world.clock m).run (World.serve setup (runHooks setup))
      World.note l.world
    (r, { l with world })
  | .settle _ d =>
    let l' := { l with count := l.count + 1, noReplies := l.noReplies.drop 1 }
    if l.noReplies.head?.getD false then (false, l')
    else (true, { l' with settled := l.settled ++ [(l.count, d)] })

end Listening

/-- a listener from its start to the end of its feed -/
def listen (setup : Setup) (s : FeedSettings) (admin : Administration)
    (faults : List (Call × Fault)) (items : List Item) (last : FeedEnd) :
    Except InfrastructureError Inbound.Listener.Ending × Listening :=
  let l : Listening :=
    { world := { armed := faults }
      noReplies := items.filterMap fun
        | .message _ noReply => some noReply
        | .status _ => none }
  let (started, l) := (Inbound.Listener.start s).run (Listening.administer admin) Listening.note l
  match started with
  | .error e => (.error e, l)
  | .ok _ =>
    let (ending, l) := (Inbound.Listener.listen (arrivals items last)).run (Listening.answer setup)
      Listening.note l
    (.ok ending, l)

end FabricRegistry.Rehearsal

import FabricRegistry.Broker.Client
import FabricRegistry.Catalogue.Table
import FabricRegistry.Inbound.Feed
import FabricRegistry.Rehearsal.Script
import FabricRegistry.Trail.Ledger

/-!
Rehearsals of the whole registry: commands, messages and direct requests, one step after the other,
over a catalogue, a trail and an outlet of one's choice. A step may come with faults, which make one
call of the command service wait, fail, or be interrupted by other steps. Time passes only by
waiting, and every new envelope has the stamp of nobody at the beginning of time, so that a
rehearsal goes the same way each time.
-/

namespace FabricRegistry.Rehearsal

open FabricRegistry.Inbound (Delivery Feed Handled HandlerError Instruction Message Router)

/-- where a catalogue or a trail is kept -/
inductive Backing where
  | memory
  /-- in a database whose pool is closed -/
  | closedPool
  /-- in a database that follows a script -/
  | scripted
  deriving DecidableEq, Repr

/-- where published envelopes go -/
inductive Outlet where
  /-- into the report -/
  | recording
  /-- nowhere -/
  | silent
  /-- to the message broker -/
  | broker
  deriving DecidableEq, Repr

/-- the calls of the command service that a fault can hit -/
inductive Call where
  | step (s : FabricRegistry.Step)
  | append
  | publish
  deriving DecidableEq, Repr

namespace Call

def text : Call → String
  | step s => s.text
  | append => "append"
  | publish => "publish"

def all : List Call :=
  [append, step .delete, step .load, publish, step .reload, step .save, step .update]

end Call

/-- one step of a rehearsal -/
inductive Step where
  /-- a command of a caller who allows it some milliseconds -/
  | command (source : Source) (provenance : Provenance) (timeout : Option Nat) (c : Command)
  | findActive (code : String)
  | findAny (code : String)
  /-- a message given to the feed -/
  | handle (m : Message)
  /-- a message given to the router -/
  | route (m : Message)
  /-- a request to the catalogue that concerns a stored fabric -/
  | catalogue (request : Fabric → Catalogue.Request) (code : String) (details : Details)
      (status : String) (version : Nat)
  /-- a request to the catalogue that concerns a code -/
  | catalogueFind (request : Code → Catalogue.Request) (code : String)
  /-- envelopes given in JSON to the trail -/
  | append (envelopes : List String)
  | eventsOf (aggregateId : String)
  /-- the outward channel -/
  | outbound

/-- the answer to a request to the catalogue -/
inductive CatalogueAnswer where
  | fabric (r : Except Catalogue.Error Fabric)
  | unit (r : Except Catalogue.Error Unit)

/-- what a step comes to -/
inductive Answer where
  | command (r : Except CommandError Outcome)
  | found (r : Except CommandError Fabric)
  | handled (r : Handled)
  | notStored (e : StoredError)
  | catalogue (r : CatalogueAnswer)
  /-- an envelope that cannot be read -/
  | undecodable
  | trail (r : Except Trail.Error Unit)
  | events (r : Except Trail.Error (List Envelope))
  | text (s : String)

/-- an error that a call gives instead of being made -/
inductive Injected where
  | catalogue (e : Catalogue.Error)
  | trail (e : Trail.Error)
  | publish (e : PublishError)

/-- What happens to a call: a wait, steps of others, an error in its place, or else the call itself,
more steps of others, and another wait. -/
structure Fault where
  waitBefore : Nat := 0
  before : List Step := []
  error : Option Injected := none
  after : List Step := []
  waitAfter : Nat := 0

/-- how the registry is put together -/
structure Setup where
  outbound : String := Subject.outbound
  outlet : Outlet := .recording
  catalogue : Backing := .memory
  trail : Backing := .memory
  feed : Feed := {}
  /-- every route leads to the feed -/
  router : Router Unit := .empty

/-- everything that the registry works on, and what is to be reported -/
structure World where
  table : Catalogue.Table := .empty
  ledger : Trail.Ledger := .empty
  script : Script := {}
  clock : Instant := 0
  /-- the faults that have not struck yet -/
  armed : List (Call × Fault) := []
  log : List Remark := []
  /-- the answers of the steps that faults brought about -/
  hooks : List Answer := []
  published : List (String × Envelope) := []
  /-- payloads handed to the broker -/
  sent : List (String × ByteArray) := []

namespace World

/-- a remark at the end of the log -/
def note (r : Remark) (w : World) : World := { w with log := w.log ++ [r] }

/-- no wait lasts longer than these milliseconds, thirty years of 365 days -/
def longestWait : Nat := 30 * 365 * 24 * 60 * 60 * 1000

/-- The passing of time. What would last beyond the deadline is cut off at the deadline. -/
def wait (w : World) (deadline : Option Instant) (milliseconds : Nat) : Bool × World :=
  let later := w.clock.after (min milliseconds longestWait)
  match deadline with
  | some d =>
    if milliseconds = 0 ∨ later ≤ d then (true, { w with clock := later })
    else (false, { w with clock := d })
  | none => (true, { w with clock := later })

/-- a statement answered by the script -/
def query (q : Database.Statement) (w : World) :
    Except Database.Failure Database.Reply × World :=
  let (reply, script) := w.script.answer q
  (reply, { w with script })

/-- a dialogue with a database of one's choice -/
def inDatabase {α : Type} (backing : Backing) (d : Database.Session α) (w : World) : α × World :=
  match backing with
  | .closedPool => d.run (fun q w => (closedAnswer q, w)) note w
  | _ => d.run query note w

def askCatalogue (setup : Setup) (q : Catalogue.Request) (w : World) : q.Reply × World :=
  match setup.catalogue with
  | .memory =>
    let (reply, table) := w.table.reply q
    (reply, { w with table })
  | backing => w.inDatabase backing (Database.catalogue q)

def askTrail (setup : Setup) (q : Trail.Request) (w : World) : q.Reply × World :=
  match setup.trail with
  | .memory =>
    let (reply, ledger) := w.ledger.reply q
    (reply, { w with ledger })
  | backing => w.inDatabase backing (Database.trail q)

/-- the reply of a broker that takes everything -/
def askBroker (q : Broker.Ask) (w : World) : Broker.Reply q × World :=
  match q with
  | .dial _ _ => (.ok (), w)
  | .send subject payload => (.ok (), { w with sent := w.sent ++ [(subject, payload)] })
  | .flush => (.ok (), w)
  | .streamInfo _ => (.ok (), w)
  | .streamCreate _ => (.ok (), w)
  | .consumerInfo _ _ => (.ok {}, w)
  | .consumerCreate _ => (.ok {}, w)
  | .pull _ _ => (.ok (), w)

def publish (setup : Setup) (subject : String) (e : Envelope) (w : World) :
    Except PublishError Unit × World :=
  match setup.outlet with
  | .silent => (e.publishable, w)
  | .recording =>
    match e.publishable with
    | .ok _ => (.ok (), { w with published := w.published ++ [(subject, e)] })
    | .error err => (.error err, w)
  | .broker => (Broker.publish subject e).run askBroker note w

/-- A call with the fault that strikes it, if one does; none if the deadline cuts it off. -/
def interfere {α : Type} (hooks : List Step → World → World) (call : Call)
    (deadline : Option Instant) (reject : Injected → Option α) (act : World → α × World)
    (w : World) : Option α × World :=
  match w.armed.lookup call with
  | none =>
    let (a, w) := act w
    (some a, w)
  | some fault =>
    let w := { w with armed := w.armed.filter fun (c, _) => c ≠ call }
    match w.wait deadline fault.waitBefore with
    | (false, w) => (none, w)
    | (true, w) =>
      let w := hooks fault.before w
      match fault.error.bind reject with
      | some a => (some a, w)
      | none =>
        let (a, w) := act w
        let w := hooks fault.after w
        match w.wait deadline fault.waitAfter with
        | (false, w) => (none, w)
        | (true, w) => (some a, w)

/-- the replies to a command at work -/
def serve (setup : Setup) (hooks : List Step → World → World) :
    (q : Command.Ask) → World → Command.Reply q × World
  | .catalogue step request deadline, w =>
    let reject : Injected → Option request.Reply
      | .catalogue e => some (.error e)
      | _ => none
    w.interfere hooks (.step step) deadline reject (askCatalogue setup request)
  | .append batch deadline, w =>
    let reject : Injected → Option (Except Trail.Error Unit)
      | .trail e => some (.error e)
      | _ => none
    w.interfere hooks .append deadline reject (askTrail setup (.append batch))
  | .publish subject e, w =>
    let reject : Injected → Option (Except PublishError Unit)
      | .publish err => some (.error err)
      | _ => none
    let (r, w) := w.interfere hooks .publish none reject (publish setup subject e)
    (r.getD (.ok ()), w)

end World

def stamps (_ : Nat) : Stamp := ⟨.nil, .epoch⟩

/-- a command that a message set off -/
def instructed (setup : Setup) (i : Instruction) : Command.Work Outcome :=
  i.command.perform setup.outbound stamps i.invocation

def inFeed (setup : Setup) (now : Instant) (m : Message) : Dialogue Command.Reply Handled :=
  (setup.feed.handle now m).expand (instructed setup)

def inRouter (setup : Setup) (now : Instant) (m : Message) : Dialogue Command.Reply Handled :=
  (setup.router.route m).expand fun d => inFeed setup now d.message

/-- the fabric of a stored row in a request to the catalogue -/
def askAbout (setup : Setup) (q : Catalogue.Request) (w : World) : Answer × World :=
  match q, w.askCatalogue setup q with
  | .save _, (r, w) => (.catalogue (.fabric r), w)
  | .findActive _, (r, w) => (.catalogue (.fabric r), w)
  | .findAny _, (r, w) => (.catalogue (.fabric r), w)
  | .update _, (r, w) => (.catalogue (.unit r), w)
  | .delete _, (r, w) => (.catalogue (.unit r), w)

/-- one step, with `hooks` for the steps that faults bring about -/
def Step.perform (setup : Setup) (hooks : List Step → World → World) (w : World) :
    Step → Answer × World
  | .command source provenance timeout c =>
    let i : Invocation := { source, provenance, deadline := timeout.map w.clock.after }
    let (r, w) := (c.perform setup.outbound stamps i).run (World.serve setup hooks) World.note w
    (.command r, w)
  | .findActive code =>
    let (r, w) := (Command.findActive code).run (World.serve setup hooks) World.note w
    (.found r, w)
  | .findAny code =>
    let (r, w) := (Command.findAny code).run (World.serve setup hooks) World.note w
    (.found r, w)
  | .handle m =>
    let (r, w) := (inFeed setup w.clock m).run (World.serve setup hooks) World.note w
    (.handled r, w)
  | .route m =>
    let (r, w) := (inRouter setup w.clock m).run (World.serve setup hooks) World.note w
    (.handled r, w)
  | .catalogue request code details status version =>
    match Fabric.ofStored code details status version with
    | .error e => (.notStored e, w)
    | .ok f => askAbout setup (request f) w
  | .catalogueFind request code =>
    match Code.ofString code with
    | .error e => (.notStored (.validation e), w)
    | .ok code => askAbout setup (request code) w
  | .append texts =>
    match texts.mapM Envelope.ofText? with
    | none => (.undecodable, w)
    | some batch =>
      let (r, w) := w.askTrail setup (.append batch)
      (.trail r, w)
  | .eventsOf aggregateId =>
    let (r, w) := w.askTrail setup (.eventsOf aggregateId)
    (.events r, w)
  | .outbound => (.text setup.outbound, w)

/-- the steps that a fault brings about, which no fault strikes -/
def runHooks (setup : Setup) (steps : List Step) (w : World) : World :=
  let after := steps.foldl
    (fun w step =>
      let (a, w) := step.perform setup (fun _ w => w) w
      { w with hooks := w.hooks ++ [a] })
    { w with armed := [] }
  { after with armed := w.armed }

/-- a step with its faults and with what the database will reply -/
structure Scene where
  step : Step
  faults : List (Call × Fault) := []
  replies : List (Except Database.Failure Database.Reply) := []

/-- the names of the faults that did not strike -/
def World.unusedFaults (w : World) : List String :=
  (Call.all.filter fun c => (w.armed.lookup c).isSome).map Call.text

def Scene.enter (scene : Scene) (w : World) : World :=
  { table := w.table, ledger := w.ledger, clock := w.clock, script := { replies := scene.replies },
    armed := scene.faults }

/-- A scene: what its step comes to, and the world after it. -/
def Scene.play (setup : Setup) (scene : Scene) (w : World) : Answer × World :=
  scene.step.perform setup (runHooks setup) (scene.enter w)

/-- the scenes one after the other, from empty stores -/
def playAll (setup : Setup) (scenes : List Scene) : List (Answer × World) :=
  (scenes.foldl
    (fun (played, w) scene =>
      let (a, w) := scene.play setup w
      (played ++ [(a, w)], w))
    ([], ({} : World))).1

end FabricRegistry.Rehearsal

import FabricRegistry.Proofs.Command.Effect
import FabricRegistry.Trail.Ledger

/-!
Many commands at work on one table, one ledger and one channel. A client is a command with what is
left of its work. A *schedule* says which command is given next and which client's next request is
answered; every request is answered in one step, so the schedules are the interleavings of the
commands at the granularity of single requests. A request of storage whose client has a deadline
may be given up before or after it took effect.

`run` is the state after a schedule, a total function of it: an action of a client that is not
there, or that has nothing left to ask, changes nothing. `Stores.alone` is one command from
beginning to end with nobody else at work, and `inTurn` a list of them one after the other.
-/

namespace FabricRegistry.Traffic

open Command (Ask Reply Work)

/-! ### What the commands share -/

/-- the outward channel: its subject, and what it replies when it is handed one more envelope, given
everything that it was handed, the new one last -/
structure Channel where
  subject : String
  reply : List (String × Envelope) → Except PublishError Unit

/-- what all commands share -/
structure Stores where
  table : Catalogue.Table
  ledger : Trail.Ledger
  /-- what the channel was handed, oldest first -/
  handed : List (String × Envelope)

def Stores.empty : Stores := ⟨.empty, .empty, []⟩

/-- how a request of storage and the deadline meet -/
inductive Timing where
  | inTime
  /-- given up before it took effect -/
  | cutBefore
  /-- given up after it took effect -/
  | cutAfter
  deriving DecidableEq, Repr

/-- A request that takes effect in one step. Only where there is a deadline can it be given up. -/
def Timing.within {α σ : Type} (timing : Timing) (deadline : Option Instant) (act : σ → α × σ)
    (s : σ) : Option α × σ :=
  match deadline, timing with
  | some _, .cutBefore => (none, s)
  | some _, .cutAfter => (none, (act s).2)
  | _, _ => (some (act s).1, (act s).2)

namespace Stores

def askTable (request : Catalogue.Request) (s : Stores) : request.Reply × Stores :=
  ((s.table.reply request).1, { s with table := (s.table.reply request).2 })

def askLedger (batch : List Envelope) (s : Stores) : Except Trail.Error Unit × Stores :=
  ((s.ledger.append batch).1, { s with ledger := (s.ledger.append batch).2 })

/-- the reply to a request, and the stores after it -/
def reply (channel : Channel) (timing : Timing) : (q : Ask) → Stores → Reply q × Stores
  | .catalogue _ request deadline, s => timing.within deadline (askTable request) s
  | .append batch deadline, s => timing.within deadline (askLedger batch) s
  | .publish subject e, s =>
    (channel.reply (s.handed ++ [(subject, e)]), { s with handed := s.handed ++ [(subject, e)] })

end Stores

/-! ### Commands at work -/

/-- a command that is given, with the stamps that its envelopes will get -/
structure Job where
  command : Command
  invocation : Invocation
  stamps : ℕ → Stamp

def Job.work (channel : Channel) (job : Job) : Work Outcome :=
  job.command.perform channel.subject job.stamps job.invocation

/-- The next request answered, remarks before it passed over. -/
def advance (channel : Channel) (timing : Timing) : Work Outcome → Stores → Work Outcome × Stores
  | .done r, s => (.done r, s)
  | .remark _ rest, s => advance channel timing rest s
  | .ask q next, s => (next (s.reply channel timing q).1, (s.reply channel timing q).2)

/-- the result of a command that has nothing left to ask -/
def result? : Work Outcome → Option (Except CommandError Outcome)
  | .done r => some r
  | .remark _ rest => result? rest
  | .ask _ _ => none

/-- the batch that the next request of the work is to record, if it is to record one -/
def appending? : Work Outcome → Option (List Envelope)
  | .done _ => none
  | .remark _ rest => appending? rest
  | .ask (.append batch _) _ => some batch
  | .ask _ _ => none

/-- a command that was given, and what is left of its work -/
structure Client where
  job : Job
  work : Work Outcome

def Client.result? (c : Client) : Option (Except CommandError Outcome) := Traffic.result? c.work

/-- the stores and the clients, numbered in the order in which their commands were given -/
structure State where
  stores : Stores
  clients : List Client

/-- what can happen next -/
inductive Action where
  /-- a command is given -/
  | start (job : Job)
  /-- the next request of a client is answered -/
  | move (client : ℕ) (timing : Timing)

def State.step (channel : Channel) (s : State) : Action → State
  | .start job => { s with clients := s.clients ++ [⟨job, job.work channel⟩] }
  | .move k timing =>
    match s.clients[k]? with
    | none => s
    | some c =>
      { stores := (advance channel timing c.work s.stores).2
        clients := s.clients.set k ⟨c.job, (advance channel timing c.work s.stores).1⟩ }

/-- the state after a schedule, from empty stores -/
def run (channel : Channel) (schedule : List Action) : State :=
  schedule.foldl (State.step channel) ⟨.empty, []⟩

@[simp] theorem run_nil (channel : Channel) : run channel [] = ⟨.empty, []⟩ := rfl

theorem run_append_singleton (channel : Channel) (schedule : List Action) (a : Action) :
    run channel (schedule ++ [a]) = (run channel schedule).step channel a := by
  simp [run]

/-- In a schedule, client `a` has its result by the time at which the command of client `b` is
given. -/
def Precedes (channel : Channel) (schedule : List Action) (a b : ℕ) : Prop :=
  ∃ before job after, schedule = before ++ .start job :: after ∧
    (run channel before).clients.length = b ∧
    ∃ c, (run channel before).clients[a]? = some c ∧ c.result?.isSome

/-- In a schedule, an answered request of client `k` brought the row of a code to version `v`. -/
def Writes (channel : Channel) (schedule : List Action) (k : ℕ) (code : Code) (v : ℕ) : Prop :=
  ∃ before timing after, schedule = before ++ .move k timing :: after ∧
    (run channel before).stores.table.versionOf code < v ∧
    (run channel (before ++ [.move k timing])).stores.table.versionOf code = v

/-! ### One command at a time -/

/-- the result of a command whose requests are answered with nobody else at work, and the stores
after it -/
def Stores.alone (channel : Channel) (job : Job) (s : Stores) :
    Except CommandError Outcome × Stores :=
  (job.work channel).run (fun q s => s.reply channel .inTime q) (fun _ s => s) s

/-- the results of commands each of which begins when the one before has ended, and the stores after
them -/
def inTurn (channel : Channel) : List Job → Stores → List (Except CommandError Outcome) × Stores
  | [], s => ([], s)
  | job :: rest, s =>
    let (r, s) := s.alone channel job
    let (rs, s) := inTurn channel rest s
    (r :: rs, s)

/-! ### A race -/

/-- a channel that takes everything -/
def Channel.silent : Channel := ⟨Subject.outbound, fun _ => .ok ()⟩

def linen : Code := ⟨"LN100", by decide, by decide⟩

/-- a command of a waiting caller, without a deadline -/
def Job.ofCommand (command : Command) : Job :=
  ⟨command, { source := .synchronous }, fun _ => default⟩

/-- A fabric is created. Then an update and a deletion of the same version both read its row; the
deletion writes first, and the update finds no row to write. -/
def race : List Action :=
  [.start (.ofCommand (.create "LN100" ⟨"Linen", "m", "NEW"⟩)), .move 0 .inTime, .move 0 .inTime,
    .move 0 .inTime, .start (.ofCommand (.update "LN100" ⟨"Linen", "m", "ON SALE"⟩ 1)),
    .start (.ofCommand (.delete "LN100" 1)), .move 1 .inTime, .move 2 .inTime, .move 2 .inTime,
    .move 1 .inTime, .move 1 .inTime, .move 2 .inTime, .move 2 .inTime]

end FabricRegistry.Traffic

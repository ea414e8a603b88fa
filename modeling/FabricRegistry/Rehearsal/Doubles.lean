import FabricRegistry.Inbound.Feed

/-!
Rehearsals of the router and of the feed on their own, over collaborators that record what they are
given and reply as they are told.
-/

namespace FabricRegistry.Rehearsal

open FabricRegistry.Inbound
  (Delivery Destination Feed Handled HandlerError Instruction Message Router)

/-- a handler with a name, which fails if it has a reason to -/
structure Double where
  name : String
  failure : Option String := none
  deriving DecidableEq, Repr

/-- the reply of such a handler -/
def Double.reply (d : Double) : Handled :=
  match d.failure with
  | some reason => .error (.other reason)
  | none => .ok ()

/-- a step with a router -/
inductive RouterStep where
  | register (subject : String) (d : Double)
  /-- the router becomes the destination of a subject in a router of its own -/
  | nest (subject : String)
  | route (m : Message)

/-- what a step with a router comes to -/
structure RouterReport where
  result : Handled
  calls : List (Delivery Double)
  subjects : List String
  log : List Remark

/-- one step with a router, and the router after it -/
def RouterStep.perform (r : Router Double) : RouterStep → RouterReport × Router Double
  | .register subject d =>
    let (r, log) := r.register subject (.handler d)
    ({ result := .ok (), calls := [], subjects := r.subjects, log }, r)
  | .nest subject =>
    let (outer, log) := Router.empty.register subject r.destination
    ({ result := .ok (), calls := [], subjects := outer.subjects, log }, outer)
  | .route m =>
    let (result, calls, log) := (r.route m).run
      (fun d (calls, log) => (d.handler.reply, calls ++ [d], log))
      (fun remark (calls, log) => (calls, log ++ [remark]))
      (([] : List (Delivery Double)), ([] : List Remark))
    ({ result, calls, subjects := r.subjects, log }, r)

/-- steps with one router after the other, from an empty one -/
def performRouterSteps (steps : List RouterStep) : List RouterReport :=
  (steps.foldl
    (fun (reports, r) step =>
      let (report, r) := step.perform r
      (reports ++ [report], r))
    (([] : List RouterReport), (Router.empty : Router Double))).1

/-- what a message to the feed comes to -/
structure FeedReport where
  result : Handled
  instructions : List Instruction
  log : List Remark

/-- an outcome that nobody looks at -/
def someOutcome : Outcome :=
  { fabric := .restore ⟨"FAB1", by decide, by decide⟩ ⟨"Cotton", "MB", "ACTIVE"⟩ .active 1
    events := [] }

/-- A message to the feed, over commands that fail with the given errors, one after the other, and
succeed where the list has none or is over; also the errors that are left. -/
def handleAlone (feed : Feed) (replies : List (Option CommandError)) (m : Message) :
    FeedReport × List (Option CommandError) :=
  let answer (i : Instruction) :
      (List (Option CommandError) × List Instruction × List Remark) →
      Except CommandError Outcome × (List (Option CommandError) × List Instruction × List Remark)
    | (replies, given, log) =>
      let reply := match replies.head?.join with
        | some e => .error e
        | none => .ok someOutcome
      (reply, replies.drop 1, given ++ [i], log)
  let (result, replies, instructions, log) := (feed.handle 0 m).run answer
    (fun remark (replies, given, log) => (replies, given, log ++ [remark])) (replies, [], [])
  ({ result, instructions, log }, replies)

/-- messages to the feed one after the other -/
def handleAllAlone (feed : Feed) (replies : List (Option CommandError)) (messages : List Message) :
    List FeedReport :=
  (messages.foldl
    (fun (reports, replies) m =>
      let (report, replies) := handleAlone feed replies m
      (reports ++ [report], replies))
    (([] : List FeedReport), replies)).1

end FabricRegistry.Rehearsal

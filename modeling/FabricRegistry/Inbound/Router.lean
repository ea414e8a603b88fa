import FabricRegistry.Command.Error
import FabricRegistry.Dialogue
import FabricRegistry.Json.Value
import FabricRegistry.Text.LetterCase

/-!
Routing of messages. A router has at most one destination for a subject, the one given last;
subjects are the same if they differ only in the case of ASCII letters. A destination is a handler
or another router. A message without a destination is dropped, which is no failure.
-/

namespace FabricRegistry.Inbound

/-- a message as it arrives -/
structure Message where
  subject : String
  payload : ByteArray

/-- a failure for which a message is to be delivered again -/
inductive HandlerError where
  | command (e : CommandError)
  | other (reason : String)
  deriving DecidableEq, Repr

def HandlerError.message : HandlerError → String
  | command e => "service error: " ++ e.message
  | other reason => s!"handler error: {reason}"

abbrev Handled : Type := Except HandlerError Unit

/-- what the broker is told about a message -/
inductive Disposition where
  /-- done with, also when it was dropped -/
  | ack
  /-- to be delivered again -/
  | nak
  deriving DecidableEq, Repr

/-- A message is done with unless its handling failed. -/
def Disposition.of : Handled → Disposition
  | .ok _ => .ack
  | .error _ => .nak

/-- where a subject leads -/
inductive Destination (H : Type) where
  | handler (h : H)
  | router (routes : List (String × Destination H))

/-- the destinations by folded subject, in ascending order -/
structure Router (H : Type) where
  routes : List (String × Destination H)

/-- a subject in lower case, as far as its letters are ASCII -/
def foldSubject (subject : String) : String := String.ofList (subject.toList.map Text.lowerAscii)

/-- a message given to one handler -/
structure Delivery (H : Type) where
  handler : H
  message : Message

/-- the reply to a delivery -/
abbrev Delivery.Reply {H : Type} (_ : Delivery H) : Type := Handled

namespace Router

variable {H : Type}

def empty : Router H := ⟨[]⟩

/-- the subjects with a destination, in ascending order -/
def subjects (r : Router H) : List String := r.routes.map Prod.fst

/-- a destination for a subject, in the place of the one it may have had -/
def register (r : Router H) (subject : String) (d : Destination H) : Router H × List Remark :=
  let key := foldSubject subject
  let remarks := if r.subjects.contains key then [⟨.warn, "Replaced existing route"⟩] else []
  (⟨Json.insertMember key d r.routes⟩, remarks)

/-- the router as the destination of another one -/
def destination (r : Router H) : Destination H := .router r.routes

end Router

mutual
/-- the way of a message from a destination on -/
def Destination.deliver {H : Type} (m : Message) :
    Destination H → Dialogue (Delivery.Reply (H := H)) Handled
  | .handler h => .ask ⟨h, m⟩ .done
  | .router routes => deliverAmong m routes

/-- the way of a message through the routes of a router -/
def deliverAmong {H : Type} (m : Message) :
    List (String × Destination H) → Dialogue (Delivery.Reply (H := H)) Handled
  | [] =>
    .remark ⟨.warn, "No handler registered for subject; dropping message"⟩ (.done (.ok ()))
  | (key, d) :: rest =>
    if key = foldSubject m.subject then .remark ⟨.debug, "Routing message"⟩ (d.deliver m)
    else deliverAmong m rest
end

/-- the way of a message through a router -/
def Router.route {H : Type} (r : Router H) (m : Message) :
    Dialogue (Delivery.Reply (H := H)) Handled :=
  deliverAmong m r.routes

end FabricRegistry.Inbound

import FabricRegistry.Text.Segments

/-!
Subjects of messages and types of events: `app.fabric` is a channel, `app.fabric.updated` the type
of an event. The namespace `app` has what this registry records, `erp` what the ERP system
announces.
-/

namespace FabricRegistry

/-- who announces -/
inductive Namespace where
  /-- this registry -/
  | app
  /-- the ERP system -/
  | erp
  deriving DecidableEq, Repr

/-- what happened to a fabric -/
inductive Operation where
  | created
  | updated
  | deleted
  | reactivated
  deriving DecidableEq, Repr

namespace Namespace

/-- the first segment of a subject -/
def text : Namespace → String
  | app => "app"
  | erp => "erp"

/-- the namespace that a segment names -/
def ofString? : String → Option Namespace
  | "app" => some .app
  | "erp" => some .erp
  | _ => none

/-- the pattern of every channel of a namespace -/
def wildcard (ns : Namespace) : String := ns.text ++ ".*"

/-- the pattern of everything in a namespace -/
def everything (ns : Namespace) : String := ns.text ++ ".>"

end Namespace

namespace Operation

/-- the last segment of an event type -/
def text : Operation → String
  | created => "created"
  | updated => "updated"
  | deleted => "deleted"
  | reactivated => "reactivated"

/-- the operation that a segment names -/
def ofString? : String → Option Operation
  | "created" => some .created
  | "updated" => some .updated
  | "deleted" => some .deleted
  | "reactivated" => some .reactivated
  | _ => none

end Operation

/-- the segment between namespace and operation -/
def fabricSegment : String := "fabric"

/-- a channel, or with an operation the type of an event -/
structure Subject where
  space : Namespace
  operation : Option Operation
  deriving DecidableEq, Repr

namespace Subject

/-- the channel of a namespace -/
def channel (ns : Namespace) : Subject := ⟨ns, none⟩

def withOperation (s : Subject) (op : Operation) : Subject := { s with operation := some op }

/-- the type of an event -/
def event (ns : Namespace) (op : Operation) : Subject := (channel ns).withOperation op

def text (s : Subject) : String :=
  match s.operation with
  | some op => s.space.text ++ "." ++ fabricSegment ++ "." ++ op.text
  | none => s.space.text ++ "." ++ fabricSegment

/-- the channel of what this registry records -/
def outbound : String := (channel .app).text

/-- the channel of what the ERP system announces -/
def inbound : String := (channel .erp).text

/-- the namespace and the operation of an event type, none for any other text -/
def parseEventType? (s : String) : Option (Namespace × Operation) :=
  match (Text.split '.' s.toList).map String.ofList with
  | [ns, fabric, op] =>
    if fabric = fabricSegment then do return (← Namespace.ofString? ns, ← Operation.ofString? op)
    else none
  | _ => none

end Subject

end FabricRegistry

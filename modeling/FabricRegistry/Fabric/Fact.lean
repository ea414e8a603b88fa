import FabricRegistry.Fabric.Details
import FabricRegistry.Subject

/-!
Facts: what the registry records of a fabric. A fact has a JSON body, and a tagged form in which a
member `type` names the operation.
-/

namespace FabricRegistry

/-- what a fact says has changed -/
inductive Change where
  | created (details : Details)
  | updated (details : Details)
  | deleted
  | reactivated (details : Details)
  deriving DecidableEq, Repr

namespace Change

def operation : Change → Operation
  | created _ => .created
  | updated _ => .updated
  | deleted => .deleted
  | reactivated _ => .reactivated

/-- the attributes after the change, where it sets them -/
def details? : Change → Option Details
  | created d => some d
  | updated d => some d
  | deleted => none
  | reactivated d => some d

end Change

/-- a change of one fabric, with the version that it led to -/
structure Fact where
  code : Code
  version : Nat
  change : Change
  deriving DecidableEq, Repr

namespace Fact

def operation (f : Fact) : Operation := f.change.operation

/-- the type of the event that announces the fact -/
def eventType (f : Fact) : String := (Subject.event .app f.operation).text

/-- the members of the JSON body -/
def members (f : Fact) : List (String × Json.Value) :=
  ("code", .string f.code.text) :: (f.change.details?.map Details.members).getD [] ++
    [("version", .int f.version)]

def body (f : Fact) : Json.Value := .ofMembers f.members

/-- the JSON body with the operation in it -/
def tagged (f : Fact) : Json.Value := .ofMembers (("type", .string f.operation.text) :: f.members)

/-- the names of the fields of a body -/
def fieldNames : Operation → List String
  | .deleted => ["code", "version"]
  | _ => ["code", "name", "measure_unit", "offer_status", "version"]

/-- the change that the fields besides code and version describe -/
def changeOfFields? (op : Operation) (fields : Json.Fields Json.Value) : Option Change :=
  let details := do
    let measureUnit ← fields.required? "measure_unit" Json.Value.string?
    let name ← fields.required? "name" Json.Value.string?
    let offerStatus ← fields.required? "offer_status" Json.Value.string?
    return { name, measureUnit, offerStatus : Details }
  match op with
  | .created => details.map .created
  | .updated => details.map .updated
  | .deleted => some .deleted
  | .reactivated => details.map .reactivated

/-- The fact of an operation and a body, which may be an object or an array of the fields. The code
is looked at first. -/
def ofBody (op : Operation) (body : Json.Value) : Except DecodeError Fact := do
  let (given, fits) ← match body with
    | .object members => pure (members, true)
    | .array items => pure ((fieldNames op).zip items, items.length ≤ (fieldNames op).length)
    | _ => throw .malformed
  let code ← Code.ofValue (← DecodeError.orMalformed (given.lookup "code"))
  let change ← DecodeError.orMalformed (changeOfFields? op given)
  let version ← DecodeError.orMalformed
    (Json.Fields.required? given "version" (Json.Value.natural? UInt64.size))
  if fits then return { code, version, change } else throw .malformed

/-- the operation that a tag names -/
def operationOfTag? : Json.Value → Option Operation
  | .string s => Operation.ofString? s
  | _ => none

/-- The fact of a tagged value: an object with a member `type`, or an array that begins with the
type. -/
def ofValue : Json.Value → Except DecodeError Fact
  | .object members => do
    let op ← DecodeError.orMalformed (members.lookup "type" >>= operationOfTag?)
    ofBody op (.object (members.filter fun (name, _) => name != "type"))
  | .array (tag :: items) => do
    let op ← DecodeError.orMalformed (operationOfTag? tag)
    ofBody op (.array items)
  | _ => .error .malformed

end Fact

end FabricRegistry

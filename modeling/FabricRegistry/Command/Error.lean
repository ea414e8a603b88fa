import FabricRegistry.Catalogue.Basic
import FabricRegistry.Trail.Basic

/-!
Why a command fails, and what that means to whoever gave it.
-/

namespace FabricRegistry

/-- the step of a command that a deadline cut off -/
inductive Step where
  | save
  | load
  | update
  | delete
  | reload
  deriving DecidableEq, Repr

def Step.text : Step → String
  | save => "save"
  | load => "load"
  | update => "update"
  | delete => "delete"
  | reload => "reload"

/-- why a command fails -/
inductive CommandError where
  | validation (e : ValidationError)
  | alreadyDeleted (code : Code)
  /-- the caller knows another version than the current one -/
  | concurrencyConflict (code : Code) (expected : Nat)
  /-- an active fabric has the code -/
  | duplicateCode (code : Code)
  /-- no active fabric has the code -/
  | notFound (code : Code)
  /-- the deadline passed during a step, which may have had its effect -/
  | deadlineExceeded (step : String)
  | storage (reason : String)
  /-- the row is written, but the trail does not tell of it -/
  | eventsNotRecorded (code : Code) (version : Nat) (reason : String) (conflict : Bool)
  deriving DecidableEq, Repr

/-- what a failure means to the caller -/
inductive ErrorKind where
  | validation
  | conflict
  | duplicate
  | notFound
  | infrastructure
  deriving DecidableEq, Repr

namespace CommandError

def message : CommandError → String
  | validation e => "validation error: " ++ e.message
  | alreadyDeleted code => s!"fabric {code} is already deleted"
  | concurrencyConflict code expected =>
    s!"concurrency conflict on fabric {code}: expected version {expected}"
  | duplicateCode code => s!"fabric code {code} already exists"
  | notFound code => s!"fabric {code} not found"
  | deadlineExceeded step => s!"deadline exceeded during {step}"
  | storage reason => s!"storage error: {reason}"
  | eventsNotRecorded code version reason _ =>
    s!"fabric {code} advanced to version {version} but its events were not recorded: {reason}"

/-- what the failure means to the caller -/
def kind : CommandError → ErrorKind
  | validation _ => .validation
  | alreadyDeleted _ => .validation
  | concurrencyConflict _ _ => .conflict
  | duplicateCode _ => .duplicate
  | notFound _ => .notFound
  | deadlineExceeded _ => .infrastructure
  | storage _ => .infrastructure
  | eventsNotRecorded _ _ _ conflict => if conflict then .conflict else .infrastructure

/-- Only a failure of the infrastructure may be gone at the next attempt. -/
def isRetryable (e : CommandError) : Bool := e.kind = .infrastructure

/-- a broken rule of the fabric as the failure of a command -/
def ofFabric : FabricError → CommandError
  | .validation e => .validation e
  | .alreadyDeleted code => .alreadyDeleted code
  | .concurrencyConflict code expected _ => .concurrencyConflict code expected

/-- a failure of the catalogue as the failure of a command -/
def ofCatalogue : Catalogue.Error → CommandError
  | .duplicateCode code => .duplicateCode code
  | .notFound code => .notFound code
  | .domain e => ofFabric e
  | .storage reason => .storage reason

end CommandError

end FabricRegistry

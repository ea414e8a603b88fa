import FabricRegistry.Duration
import FabricRegistry.Envelope

/-!
How a command came in: from whom, through which door, and until when it may take.
-/

namespace FabricRegistry

/-- the door that a command came through -/
inductive Source where
  /-- a request whose caller waits for the result -/
  | synchronous
  /-- a message of the ERP feed -/
  | asynchronous
  deriving DecidableEq, Repr

/-- origin and limits of one command -/
structure Invocation where
  source : Source
  provenance : Provenance := {}
  /-- calls of storage that are not finished by then are given up -/
  deadline : Option Instant := none
  deriving DecidableEq, Repr

namespace Invocation

/-- Only what a waiting caller set off goes to the outward channel. -/
def publishes (i : Invocation) : Bool := i.source = .synchronous

/-- the invocation with a deadline some milliseconds from now -/
def withTimeout (i : Invocation) (now : Instant) (milliseconds : Nat) : Invocation :=
  { i with deadline := some (now.after milliseconds) }

section

variable (i : Invocation) (now : Instant) (milliseconds : Nat)

@[simp] theorem withTimeout_source : (i.withTimeout now milliseconds).source = i.source := rfl

@[simp] theorem withTimeout_provenance :
    (i.withTimeout now milliseconds).provenance = i.provenance := rfl

@[simp] theorem withTimeout_deadline :
    (i.withTimeout now milliseconds).deadline = some (now.after milliseconds) := rfl

end

end Invocation

end FabricRegistry

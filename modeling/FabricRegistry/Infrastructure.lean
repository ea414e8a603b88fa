import FabricRegistry.Json.Fault

/-!
Failures of the configuration and of the connections that everything else rests on.
-/

namespace FabricRegistry

/-- a failure below the registry's own work, with its reason -/
inductive InfrastructureError where
  | natsConnection (reason : String)
  | natsPublish (reason : String)
  | natsSubscribe (reason : String)
  | jetStream (reason : String)
  | database (reason : String)
  | serialization (reason : String)
  | configuration (reason : String)
  deriving DecidableEq, Repr

def InfrastructureError.message : InfrastructureError → String
  | natsConnection reason => s!"NATS connection error: {reason}"
  | natsPublish reason => s!"NATS publish error: {reason}"
  | natsSubscribe reason => s!"NATS subscribe error: {reason}"
  | jetStream reason => s!"JetStream error: {reason}"
  | database reason => s!"Database error: {reason}"
  | serialization reason => s!"Serialization error: {reason}"
  | configuration reason => s!"Configuration error: {reason}"

/-- a fault in JSON as a failure -/
def InfrastructureError.ofFault (f : Json.Fault) : InfrastructureError := .serialization f.text

end FabricRegistry

import FabricRegistry.Envelope

/-!
Publication of envelopes on the outward channel. An envelope that lacks something is not published.
-/

namespace FabricRegistry

/-- why an envelope is not published -/
inductive PublishError where
  | invalidEnvelope (e : EnvelopeError)
  | transport (reason : String)
  deriving DecidableEq, Repr

def PublishError.message : PublishError → String
  | invalidEnvelope e => "invalid envelope: " ++ e.message
  | transport reason => s!"transport error: {reason}"

/-- an envelope that is fit to be published -/
def Envelope.publishable (e : Envelope) : Except PublishError Unit :=
  e.validate.mapError .invalidEnvelope

end FabricRegistry

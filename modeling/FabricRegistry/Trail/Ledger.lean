import FabricRegistry.Trail.Basic

/-!
The trail in memory: the envelopes in the order of recording, and the keys that are taken.
-/

namespace FabricRegistry.Trail

/-- the recorded envelopes with their keys -/
structure Ledger where
  events : List Envelope
  keys : List (String × Nat)
  deriving Inhabited

namespace Ledger

def empty : Ledger := ⟨[], []⟩

/-- The keys of a batch that may be recorded when the keys `taken` are; the first envelope that may
not be decides the failure. -/
def checkBatch (taken : List (String × Nat)) : List Envelope → Except Error (List (String × Nat))
  | [] => .ok taken
  | e :: rest => do
    e.validate.mapError .invalidEnvelope
    if taken.contains e.key then .error (.concurrencyConflict e.aggregateId e.aggregateVersion)
    else checkBatch (taken ++ [e.key]) rest

/-- the reply to a batch, and the ledger after it -/
def append (l : Ledger) (batch : List Envelope) : Except Error Unit × Ledger :=
  match checkBatch l.keys batch with
  | .ok keys => (.ok (), ⟨l.events ++ batch, keys⟩)
  | .error e => (.error e, l)

/-- an envelope at its place by version, behind those of the same version -/
def insertByVersion (e : Envelope) : List Envelope → List Envelope
  | [] => [e]
  | d :: rest =>
    if e.aggregateVersion < d.aggregateVersion then e :: d :: rest
    else d :: insertByVersion e rest

/-- the envelopes of one aggregate, by version -/
def eventsOf (l : Ledger) (aggregateId : String) : List Envelope :=
  (l.events.filter fun e => e.aggregateId = aggregateId).foldl
    (fun sorted e => insertByVersion e sorted) []

/-- the reply to a request, and the ledger after it -/
def reply (l : Ledger) : (q : Request) → q.Reply × Ledger
  | .append batch => l.append batch
  | .eventsOf id => (.ok (l.eventsOf id), l)

end Ledger

end FabricRegistry.Trail

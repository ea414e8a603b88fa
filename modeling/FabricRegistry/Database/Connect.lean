import FabricRegistry.Database.Basic
import FabricRegistry.Settings
import FabricRegistry.Text.Scheme

/-!
Opening a pool of connections to the database. The first connection is made at once and must answer
a ping; a login that is refused only for the moment is tried again until the time for acquiring a
connection is over.
-/

namespace FabricRegistry.Database

/-- an open pool -/
structure Pool where
  maxConnections : Nat
  minConnections : Nat
  deriving DecidableEq, Repr

/-- what opening a pool asks of the database -/
inductive Opening where
  | login (url : String)
  | statement (s : Statement)

abbrev Opening.Answer : Opening → Type
  | .login _ => Except Failure Unit
  | .statement _ => Except Failure Reply

/-- An address has a scheme; controls and spaces in front of it do not count. -/
def isAddress (url : String) : Bool :=
  (Text.splitScheme? (url.toList.dropWhile fun c => c.toNat ≤ 0x20)).isSome

/-- refused for the moment: too many connections, or not ready yet -/
def Failure.isTransient : Failure → Bool
  | .rejected sqlState _ => sqlState == "53300" || sqlState == "57P03"
  | _ => false

/-- the pool that the settings describe -/
def connect (s : DatabaseSettings) :
    Dialogue Opening.Answer (Except InfrastructureError Pool) :=
  let failed (f : Failure) : InfrastructureError := .database ("failed to connect: " ++ f.message)
  if !isAddress s.url then
    .done (.error (failed (.badAddress "relative URL without a base")))
  else if s.maxConnections = 0 then .done (.error (failed .poolTimedOut))
  else
    .ask (.login s.url) fun
      | .error f => .done (.error (failed (if f.isTransient then .poolTimedOut else f)))
      | .ok _ =>
        .ask (.statement .ping) fun
          | .error f => .done (.error (.database ("ping failed: " ++ f.message)))
          | .ok _ =>
            .remark ⟨.info, "Connected to Postgres"⟩
              (.done (.ok ⟨s.maxConnections, min s.minConnections s.maxConnections⟩))

end FabricRegistry.Database

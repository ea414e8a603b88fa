import FabricRegistry.Database.Catalogue
import FabricRegistry.Database.Connect
import FabricRegistry.Database.Trail

/-!
Databases for rehearsals: one that follows a script and keeps what it was asked, and one whose pool
of connections is closed.
-/

namespace FabricRegistry.Rehearsal

open FabricRegistry.Database (Failure Reply Statement)

/-- the replies still to be given, and the statements asked so far -/
structure Script where
  replies : List (Except Failure Reply) := []
  statements : List Statement := []

namespace Script

/-- the next reply; behind the end of the script every statement succeeds -/
def take (s : Script) : Except Failure Reply × Script :=
  match s.replies with
  | [] => (.ok {}, s)
  | r :: rest => (r, { s with replies := rest })

/-- The reply to a statement. Giving up a transaction always succeeds and takes no reply. -/
def answer (q : Statement) (s : Script) : Except Failure Reply × Script :=
  let s := { s with statements := s.statements ++ [q] }
  match q with
  | .rollback => (.ok {}, s)
  | _ => s.take

end Script

/-- the reply of a database whose pool is closed -/
def closedAnswer (_ : Statement) : Except Failure Reply := .error .closedPool

/-- what an attempt to open a pool comes to -/
structure OpeningReport where
  result : Except InfrastructureError Database.Pool
  statements : List Statement
  log : List Remark

/-- an attempt to open a pool of a database that follows a script and may turn the login away -/
def openPool (s : DatabaseSettings) (login : Except Failure Unit)
    (replies : List (Except Failure Reply)) : OpeningReport :=
  let answer (q : Database.Opening) (state : Script × List Remark) :
      q.Answer × (Script × List Remark) :=
    match q with
    | .login _ => (login, state)
    | .statement q =>
      let (reply, script) := state.1.answer q
      (reply, script, state.2)
  let (result, script, log) := (Database.connect s).run answer
    (fun r (script, log) => (script, log ++ [r])) ({ replies }, [])
  { result, statements := script.statements, log }

end FabricRegistry.Rehearsal

import FabricRegistry.Text.Decimal
import FabricRegistry.Text.Scheme

/-!
Addresses of message brokers: an optional scheme, a host and an optional port.
-/

namespace FabricRegistry.Broker

/-- whether a text has `://` in it -/
def hasAuthority : List Char → Bool
  | ':' :: '/' :: '/' :: _ => true
  | _ :: rest => hasAuthority rest
  | [] => false

/-- what follows the last `@` -/
def dropUser (s : List Char) : List Char := (s.reverse.takeWhile (· ≠ '@')).reverse

/-- what follows the host: nothing, or a colon and the port -/
def afterHost (s : List Char) : List Char :=
  match s with
  | '[' :: rest => (rest.dropWhile (· ≠ ']')).drop 1
  | _ => s.dropWhile (· ≠ ':')

/-- a port: no digits, or a number below 2^16 -/
def isPort (s : List Char) : Bool := s.all Text.isDigit && Text.digitsValue s < UInt16.size

/-- the reason why the rest of an address behind its scheme is none -/
def authorityProblem? (s : List Char) : Option String :=
  match s with
  | '/' :: '/' :: rest =>
    let authority := rest.takeWhile fun c => c ≠ '/' && c ≠ '?' && c ≠ '#'
    if isPort ((afterHost (dropUser authority)).drop 1) then none else some "invalid port number"
  | _ => none

/-- the reason why a text is no address of a broker -/
def addressProblem? (address : String) : Option String :=
  let invalid (reason : String) := some ("NATS server URL is invalid: " ++ reason)
  let s := address.toList
  let s := if hasAuthority s then s else "nats://".toList ++ s
  match Text.splitScheme? s with
  | none => invalid "relative URL without a base"
  | some (scheme, rest) =>
    match authorityProblem? rest with
    | some reason => invalid reason
    | none =>
      if ["nats".toList, "tls".toList].contains scheme then none
      else some ("invalid scheme for NATS server URL: " ++ String.ofList scheme)

end FabricRegistry.Broker

import FabricRegistry.Text.Blank
import FabricRegistry.Text.Decimal

/-!
Lengths of time in whole seconds, written `30`, `30s`, `15m` or `2h`, and moments counted in
milliseconds of a running clock.
-/

namespace FabricRegistry

/-- a number of whole seconds -/
structure Duration where
  seconds : Nat
  deriving DecidableEq, Repr

namespace Duration

/-- the seconds in the unit that a letter stands for -/
def unit? : Char → Option Nat
  | 's' => some 1
  | 'm' => some 60
  | 'h' => some 3600
  | _ => none

/-- the digits of a written duration and the seconds that each counts for -/
def amount (s : List Char) : List Char × Nat :=
  match s.getLast? with
  | none => (s, 1)
  | some c =>
    match unit? c with
    | some k => (s.dropLast, k)
    | none => (s, 1)

/-- A count of seconds, minutes or hours between blanks; the count and the seconds it comes to stay
below 2^64. -/
def parse? (raw : String) : Option Duration := do
  let (digits, k) := amount (Text.trim raw.toList)
  let n ← Text.readBelow? UInt64.size digits
  if n * k < UInt64.size then some ⟨n * k⟩ else none

end Duration

/-- a moment, in milliseconds since the clock was started -/
abbrev Instant := Nat

namespace Instant

/-- the moment a number of milliseconds later -/
def after (now : Instant) (milliseconds : Nat) : Instant := now + milliseconds

/-- A clock counts its seconds in a signed 64-bit number. -/
def Representable (t : Instant) : Prop := t / 1000 < Nat.pow 2 63

instance (t : Instant) : Decidable t.Representable := inferInstanceAs (Decidable (_ < _))

end Instant

end FabricRegistry

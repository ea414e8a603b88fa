import FabricRegistry.Json.Double

/-!
Numbers as JSON writes them, and what they denote. A numeral without fraction and exponent is an
integer as far as 64 bits hold it; every other numeral is a double. The double is the whole number
that the first digits make up, scaled by one power of ten.
-/

namespace FabricRegistry.Json

/-- a written number -/
structure Numeral where
  negative : Bool
  whole : List Char
  fraction : Option (List Char)
  /-- the sign and the digits of the power of ten -/
  exponent : Option (Bool × List Char)
  deriving DecidableEq, Repr

namespace Numeral

/-- the sign in front of a number -/
def readMinus : List Char → Bool × List Char
  | '-' :: rest => (true, rest)
  | s => (false, s)

def readSign : List Char → Bool × List Char
  | '-' :: rest => (true, rest)
  | '+' :: rest => (false, rest)
  | s => (false, s)

/-- digits without a needless zero in front -/
def isPlain (ds : List Char) : Bool := ds.length == 1 || !(ds.head? == some '0')

/-- the fraction behind the whole digits, one digit at least behind the point -/
def readFraction? : List Char → Option (Option (List Char) × List Char)
  | '.' :: rest =>
    let ds := rest.takeWhile Text.isDigit
    if ds = [] then none else some (some ds, rest.dropWhile Text.isDigit)
  | s => some (none, s)

/-- the exponent at the end of a number -/
def readExponent? : List Char → Option (Option (Bool × List Char))
  | [] => some none
  | c :: rest =>
    let (negative, ds) := readSign rest
    if (c = 'e' ∨ c = 'E') ∧ ds ≠ [] ∧ ds.all Text.isDigit then some (some (negative, ds)) else none

/-- a whole word as a number -/
def ofWord? (word : List Char) : Option Numeral := do
  let (negative, rest) := readMinus word
  let whole := rest.takeWhile Text.isDigit
  if whole = [] ∨ !isPlain whole then none
  let (fraction, rest) ← readFraction? (rest.dropWhile Text.isDigit)
  let exponent ← readExponent? rest
  return { negative, whole, fraction, exponent }

/-- The integer between -2^63 and 2^64 that the numeral denotes. A negative zero is none. -/
def integer? (n : Numeral) : Option Int :=
  let m := Text.digitsValue n.whole
  if n.fraction.isSome || n.exponent.isSome then none
  else if n.negative then if m ≠ 0 ∧ m ≤ Nat.pow 2 63 then some (-m) else none
  else if m < UInt64.size then some m else none

/-- the natural number below `bound` that the numeral denotes -/
def below? (bound : Nat) (n : Numeral) : Option Nat :=
  match n.integer? with
  | some (.ofNat m) => if m < bound then some m else none
  | _ => none

/-- the first digits as one number of 64 bits, and the power of ten it is to be scaled by -/
structure Significand where
  digits : Nat
  exponent : Int
  /-- further digits are ignored -/
  full : Bool

/-- a digit of the whole part; the first one that does not fit and all behind it scale by ten -/
def Significand.pushWhole (s : Significand) (c : Char) : Significand :=
  let m := 10 * s.digits + Text.digitValue c
  if !s.full && m < UInt64.size then { s with digits := m }
  else { s with exponent := s.exponent + 1, full := true }

/-- a digit of the fraction; the first one that does not fit and all behind it are dropped -/
def Significand.pushFraction (s : Significand) (c : Char) : Significand :=
  let m := 10 * s.digits + Text.digitValue c
  if !s.full && m < UInt64.size then { s with digits := m, exponent := s.exponent - 1 }
  else { s with full := true }

/-- the digits before the exponent -/
def significand (n : Numeral) : Significand :=
  let s := n.whole.foldl Significand.pushWhole ⟨0, 0, false⟩
  (n.fraction.getD []).foldl Significand.pushFraction { s with full := false }

/-- a power of ten as a double -/
def powerOfTen (e : Nat) : Float := Float.ofScientific 1 false e

/-- the product with a power of ten, none beyond the range of doubles -/
def scaleUp? (f : Float) (e : Nat) : Option Float :=
  if e ≤ 308 then
    let g := f * powerOfTen e
    if g.isInf then none else some g
  else if f == 0 then some f else none

/-- the quotient by a power of ten, in steps of the greatest power that is a double -/
def scaleDown (f : Float) (e : Nat) : Float :=
  if e ≤ 308 then f / powerOfTen e
  else if f == 0 then f
  else scaleDown (f / powerOfTen 308) (e - 308)
termination_by e
decreasing_by omega

def magnitude? (n : Numeral) : Option Float :=
  let s := n.significand
  let f := s.digits.toUInt64.toFloat
  let scaled (e : Int) := if 0 ≤ e then scaleUp? f e.toNat else some (scaleDown f e.natAbs)
  match n.exponent with
  | none => scaled s.exponent
  | some (negative, ds) =>
    let e := Text.digitsValue ds
    if e < Nat.pow 2 31 then scaled (if negative then s.exponent - e else s.exponent + e)
    else if s.digits ≠ 0 ∧ !negative then none
    else some 0

/-- the double that the numeral denotes, none beyond the range of doubles -/
def double? (n : Numeral) : Option Double :=
  n.magnitude?.map fun f => .ofFloat (if n.negative then -f else f)

end Numeral

end FabricRegistry.Json

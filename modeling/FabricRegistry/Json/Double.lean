import FabricRegistry.Text.Decimal

/-!
Finite doubles and their shortest text. A double stands for every real number that rounds to it; of
the decimal numbers in that interval the text takes one with the fewest digits, and of those the one
nearest to the double.
-/

namespace FabricRegistry.Json

/-- the bits of a finite double -/
structure Double where
  bits : UInt64
  deriving DecidableEq, Repr

namespace Double

/-- the double that a float is -/
def ofFloat (f : Float) : Double := ⟨f.toBits⟩

/-- the sign bit -/
def isNegative (x : Double) : Bool := Nat.pow 2 63 ≤ x.bits.toNat

/-- the biased exponent -/
def exponentField (x : Double) : Nat := x.bits.toNat / Nat.pow 2 52 % Nat.pow 2 11

/-- the bits of the significand behind the leading one -/
def fractionField (x : Double) : Nat := x.bits.toNat % Nat.pow 2 52

/-- The pair `m` and `q` with `m * 2 ^ q` the magnitude of the double. -/
def magnitude (x : Double) : Nat × Int :=
  if x.exponentField = 0 then (x.fractionField, -1074)
  else (x.fractionField + Nat.pow 2 52, x.exponentField - 1075)

/-- The real numbers that round to one double: they lie between `low / scale` and `high / scale`
around `mid / scale`, the ends included or not. -/
structure Interval where
  low : Nat
  mid : Nat
  high : Nat
  scale : Nat
  closed : Bool

/-- the interval of the magnitude; a power of two has its lower neighbour at half the distance -/
def interval (x : Double) : Interval :=
  let (m, q) := x.magnitude
  let below := if x.fractionField = 0 ∧ 1 < x.exponentField then 1 else 2
  let up := (q - 2).toNat
  { low := (4 * m - below) * Nat.pow 2 up
    mid := 4 * m * Nat.pow 2 up
    high := (4 * m + 2) * Nat.pow 2 up
    scale := Nat.pow 2 (2 - q).toNat
    closed := m % 2 = 0 }

/-- Multiplication by `10 ^ (-k)`, which makes the whole numbers of the grid of step `10 ^ k`. -/
def Interval.onGrid (i : Interval) (k : Int) : Interval :=
  let up := Nat.pow 10 (-k).toNat
  { i with low := i.low * up, mid := i.mid * up, high := i.high * up,
           scale := i.scale * Nat.pow 10 k.toNat }

/-- a whole number in the interval -/
def Interval.contains (i : Interval) (d : Nat) : Bool :=
  if i.closed then i.low ≤ d * i.scale && d * i.scale ≤ i.high
  else i.low < d * i.scale && d * i.scale < i.high

/-- the whole number of the interval nearest to its middle, of two equally near ones the even one -/
def Interval.nearest? (i : Interval) : Option Nat :=
  let d := i.mid / i.scale
  match i.contains d, i.contains (d + 1) with
  | false, false => none
  | true, false => some d
  | false, true => some (d + 1)
  | true, true =>
    let rest := i.mid - d * i.scale
    if 2 * rest < i.scale then some d
    else if i.scale < 2 * rest then some (d + 1)
    else if d % 2 = 0 then some d else some (d + 1)

/-- the greatest `e` with `10 ^ e` at most the middle of the interval -/
def Interval.decimalExponent (i : Interval) : Int :=
  if i.scale ≤ i.mid then (Text.digits (i.mid / i.scale)).length - 1
  else
    match (List.range 330).find? fun j => i.scale ≤ i.mid * Nat.pow 10 (j + 1) with
    | some j => -(j + 1 : Nat)
    | none => 0

/-- the shortest decimal number of the interval, as a whole number and a power of ten -/
def Interval.shortest (i : Interval) : Nat × Int :=
  let e := i.decimalExponent
  let found := (List.range 17).findSome? fun (n : Nat) =>
    let k := e - n
    (i.onGrid k).nearest?.map fun d => (d, k)
  found.getD (0, 0)

/-- the digits without the zeros at their end, and the power of ten these made up -/
def dropZeros (ds : List Char) (k : Int) : List Char × Int :=
  let zeros := ds.reverse.takeWhile (· == '0')
  (ds.take (ds.length - zeros.length), k + zeros.length)

/-- Digits with a power of ten: positional between a hundred-thousandth and ten to the sixteenth,
and then always with a decimal point, otherwise one digit before the point and a signed exponent. -/
def layout (ds : List Char) (k : Int) : List Char :=
  let point := ds.length + k
  if 0 ≤ k ∧ point ≤ 16 then ds ++ List.replicate k.toNat '0' ++ ['.', '0']
  else if 0 < point ∧ point ≤ 16 then ds.take point.toNat ++ '.' :: ds.drop point.toNat
  else if -5 < point ∧ point ≤ 0 then '0' :: '.' :: List.replicate (-point).toNat '0' ++ ds
  else
    let rest := ds.drop 1
    let sign := if 0 ≤ point - 1 then '+' else '-'
    ds.take 1 ++ (if rest = [] then [] else '.' :: rest) ++
      'e' :: sign :: Text.digits (point - 1).natAbs

def chars (x : Double) : List Char :=
  let sign := if x.isNegative then ['-'] else []
  if x.magnitude.1 = 0 then sign ++ ['0', '.', '0']
  else
    let (d, k) := x.interval.shortest
    let (ds, k) := dropZeros (Text.digits d) k
    sign ++ layout ds k

end Double

end FabricRegistry.Json

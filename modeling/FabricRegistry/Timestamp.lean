import FabricRegistry.Calendar
import FabricRegistry.Text.Blank
import FabricRegistry.Text.Decimal

/-!
Instants of universal time, to the nanosecond. A leap second is the second 60 of its minute.

Instants are written `2025-01-01T00:00:00.5Z`. Read, they may also have an offset from universal
time, fewer digits, and blanks before every number and around the separators.
-/

namespace FabricRegistry

/-- an instant of universal time -/
structure Timestamp where
  date : Date
  hour : Fin 24
  minute : Fin 60
  second : Fin 61
  nano : Fin 1000000000
  deriving DecidableEq, Repr

namespace Timestamp

/-- the beginning of 1970 -/
def epoch : Timestamp where
  date := ⟨1970, 1, 1, by decide, by decide⟩
  hour := 0
  minute := 0
  second := 0
  nano := 0

instance : Inhabited Timestamp := ⟨epoch⟩

/-- a written year, with a sign outside 0 to 9999 -/
def yearChars (year : Int) : List Char :=
  if 0 ≤ year ∧ year ≤ 9999 then Text.padded 4 year.toNat
  else (if 0 ≤ year then '+' else '-') :: Text.padded 4 year.natAbs

/-- the written fraction of a second, of as many thousandths steps as it needs -/
def nanoChars (nano : Nat) : List Char :=
  if nano = 0 then []
  else if nano % 1000000 = 0 then '.' :: Text.padded 3 (nano / 1000000)
  else if nano % 1000 = 0 then '.' :: Text.padded 6 (nano / 1000)
  else '.' :: Text.padded 9 nano

/-- the canonical text -/
def text (t : Timestamp) : String :=
  String.ofList <| yearChars t.date.year ++ '-' :: Text.padded 2 t.date.month ++
    '-' :: Text.padded 2 t.date.day ++ 'T' :: Text.padded 2 t.hour ++
    ':' :: Text.padded 2 t.minute ++ ':' :: Text.padded 2 t.second ++ nanoChars t.nano ++ ['Z']

instance : ToString Timestamp := ⟨text⟩

/-- a number of one to `width` digits, and what follows it -/
def readDigits? (width : Nat) (s : List Char) : Option (Nat × List Char) :=
  let ds := (s.take width).takeWhile Text.isDigit
  if ds = [] then none else some (Text.digitsValue ds, s.drop ds.length)

/-- a number of one or two digits behind blanks -/
def readField? (s : List Char) : Option (Nat × List Char) := readDigits? 2 (Text.trimFront s)

/-- a year behind blanks, of at most four digits unless it has a sign -/
def readYear? (s : List Char) : Option (Int × List Char) :=
  match Text.trimFront s with
  | '-' :: rest => (readDigits? rest.length rest).map fun (n, rest) => (-n, rest)
  | '+' :: rest => (readDigits? rest.length rest).map fun (n, rest) => ((n : Int), rest)
  | s => (readDigits? 4 s).map fun (n, rest) => ((n : Int), rest)

/-- a separator behind blanks -/
def readSeparator? (c : Char) (s : List Char) : Option (List Char) :=
  match Text.trimFront s with
  | d :: rest => if c = d then some rest else none
  | [] => none

/-- what follows the letter or space between day and time -/
def readBetween? : List Char → Option (List Char)
  | c :: rest => if c = 'T' ∨ c = 't' ∨ c = ' ' then some rest else none
  | [] => none

/-- the nanoseconds behind a decimal point, zero without one; digits behind the ninth are ignored -/
def readNano? : List Char → Option (Nat × List Char)
  | '.' :: rest =>
    let ds := rest.takeWhile Text.isDigit
    let kept := ds.take 9
    if ds = [] then none
    else some (Text.digitsValue kept * Nat.pow 10 (9 - kept.length), rest.dropWhile Text.isDigit)
  | s => some (0, s)

def readTwo? : List Char → Option (Nat × List Char)
  | a :: b :: rest =>
    if Text.isDigit a && Text.isDigit b then some (Text.digitsValue [a, b], rest) else none
  | _ => none

/-- the sign of an offset, true for minus -/
def readOffsetSign? : List Char → Option (Bool × List Char)
  | '+' :: rest => some (false, rest)
  | '-' :: rest => some (true, rest)
  | '−' :: rest => some (true, rest)
  | _ => none

/-- the minutes that local time is ahead of universal time -/
def readOffset? (s : List Char) : Option (Int × List Char) :=
  match s with
  | 'Z' :: rest => some (0, rest)
  | 'z' :: rest => some (0, rest)
  | _ =>
    if (s.take 3).map Char.toUpper = ['U', 'T', 'C'] then some (0, s.drop 3)
    else do
      let (negative, s) ← readOffsetSign? s
      let (hours, s) ← readTwo? s
      let (minutes, s) ← readTwo? (s.dropWhile fun c => c = ':' || Text.isBlank c)
      if 23 < hours ∨ 59 < minutes then none
      let total : Int := 60 * hours + minutes
      return (if negative then -total else total, s)

/-- the instant of a local time that is `offset` minutes ahead of universal time -/
def ofLocal? (date : Date) (hour minute second nano : Nat) (offset : Int) : Option Timestamp := do
  let minutes : Int := 60 * hour + minute - offset
  let date ← if minutes < 0 then date.prev? else if 1440 ≤ minutes then date.next? else some date
  let ofDay := (minutes % 1440).toNat
  if h : ofDay / 60 < 24 ∧ second < 61 ∧ nano < 1000000000 then
    some ⟨date, ⟨ofDay / 60, h.1⟩, ⟨ofDay % 60, Nat.mod_lt _ (by decide)⟩, ⟨second, h.2.1⟩,
      ⟨nano, h.2.2⟩⟩
  else none

/-- the instant that the characters denote -/
def read? (s : List Char) : Option Timestamp := do
  let (year, s) ← readYear? s
  let (month, s) ← readField? (← readSeparator? '-' s)
  let (day, s) ← readField? (← readSeparator? '-' s)
  let (hour, s) ← readField? (← readBetween? s)
  let (minute, s) ← readField? (← readSeparator? ':' s)
  let (second, s) ← readField? (← readSeparator? ':' s)
  let (nano, s) ← readNano? s
  let (offset, s) ← readOffset? (Text.trimFront s)
  if Text.trimFront s ≠ [] ∨ 23 < hour ∨ 59 < minute then none
  ofLocal? (← Date.of? year month day) hour minute second nano offset

/-- the instant that a text denotes -/
def parse? (s : String) : Option Timestamp := read? s.toList

/-- the day number of the first of January 2000 -/
def postgresEpoch : Int := 10957

/-- The microseconds since 1970. What is finer is cut off toward the first of January 2000; a leap
second counts as the first second of the next minute. -/
def micros (t : Timestamp) : Int :=
  let seconds : Int := (t.date.dayNumber - postgresEpoch) * 86400 + t.hour * 3600 + t.minute * 60 +
    t.second
  (seconds * 1000000000 + t.nano).tdiv 1000 + postgresEpoch * 86400000000

/-- the instant a number of microseconds after the beginning of 1970 -/
def ofMicros? (n : Int) : Option Timestamp := do
  let date ← Date.ofDayNumber? (n / 86400000000)
  let ofDay := (n % 86400000000).toNat
  let seconds := ofDay / 1000000
  if h : seconds / 3600 < 24 then
    some ⟨date, ⟨seconds / 3600, h⟩, ⟨seconds / 60 % 60, Nat.mod_lt _ (by decide)⟩,
      ⟨seconds % 60, by omega⟩, ⟨ofDay % 1000000 * 1000, by omega⟩⟩
  else none

end Timestamp

end FabricRegistry

import FabricRegistry.Json.Reader
import FabricRegistry.Json.Printer
import FabricRegistry.Text.LetterCase

/-!
Identifiers of events: 128 bits, written as 32 hexadecimal digits in five groups.
-/

namespace FabricRegistry

/-- a word of 128 bits as hexadecimal digits, the most significant first -/
structure EventId where
  nibbles : List (Fin 16)
  length_eq : nibbles.length = 32
  deriving DecidableEq, Repr

namespace EventId

/-- the identifier with all bits zero -/
def nil : EventId := ⟨List.replicate 32 0, by simp⟩

instance : Inhabited EventId := ⟨nil⟩

/-- the identifier of 32 digits -/
def ofNibbles? (nibbles : List (Fin 16)) : Option EventId :=
  if h : nibbles.length = 32 then some ⟨nibbles, h⟩ else none

/-- a hexadecimal digit of either case -/
def nibble? (c : Char) : Option (Fin 16) := do
  let n ← Json.hexValue? c
  if h : n < 16 then some ⟨n, h⟩ else none

/-- the digits in five groups of 8, 4, 4, 4 and 12 -/
def grouped (ds : List Char) : List Char :=
  ds.take 8 ++ '-' :: (ds.drop 8).take 4 ++ '-' :: (ds.drop 12).take 4 ++
    '-' :: (ds.drop 16).take 4 ++ '-' :: ds.drop 20

/-- the digits of five groups, none where a hyphen is not in its place -/
def ungrouped? (s : List Char) : Option (List Char) :=
  if s[8]? = some '-' ∧ s[13]? = some '-' ∧ s[18]? = some '-' ∧ s[23]? = some '-' then
    some (s.take 8 ++ (s.drop 9).take 4 ++ (s.drop 14).take 4 ++ (s.drop 19).take 4 ++ s.drop 24)
  else none

/-- the canonical text, grouped and in lower case -/
def text (id : EventId) : String :=
  String.ofList (grouped (id.nibbles.map fun n => Json.hexDigit n.val))

instance : ToString EventId := ⟨text⟩

/-- the digits of a written identifier: 32 digits, or grouped, or grouped in braces, or grouped
behind `urn:uuid:` in letters of either case -/
def digits? (s : List Char) : Option (List Char) :=
  if s.length = 32 then some s
  else if s.length = 36 then ungrouped? s
  else if s.length = 38 ∧ s.head? = some '\x7b' ∧ s.getLast? = some '\x7d' then
    ungrouped? (s.drop 1).dropLast
  else if s.length = 45 ∧ (s.take 9).map Text.lowerAscii = "urn:uuid:".toList then
    ungrouped? (s.drop 9)
  else none

/-- the identifier that a text denotes -/
def parse? (s : String) : Option EventId := do
  ofNibbles? (← (← digits? s.toList).mapM nibble?)

/-- the lowest `count` hexadecimal digits of a number -/
def lowNibbles (count n : Nat) : List (Fin 16) :=
  (List.range count).reverse.map fun i => ⟨n / Nat.pow 16 i % 16, Nat.mod_lt _ (by decide)⟩

/-- An identifier in the order of time: 48 bits of milliseconds, then the version 7, then entropy
with the two variant bits among it. -/
def timeOrdered (milliseconds entropy : Nat) : EventId where
  nibbles := lowNibbles 12 milliseconds ++ 7 :: lowNibbles 3 (entropy / Nat.pow 2 62) ++
    ⟨8 + entropy / Nat.pow 2 60 % 4, by omega⟩ :: lowNibbles 15 entropy
  length_eq := by simp [lowNibbles]

/-- the version digit -/
def version (id : EventId) : Nat := (id.nibbles[12]?.map Fin.val).getD 0

end EventId

end FabricRegistry

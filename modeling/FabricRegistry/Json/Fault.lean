import FabricRegistry.Text.Decimal

/-!
Faults of JSON in words. A fault has a place, a line and a column, and its words end in them; line 0
is no place. A fault that is only known by its words is taken apart again: a place at the end of the
words is its place, whoever wrote it there.
-/

namespace FabricRegistry.Json

/-- what is wrong, and where -/
structure Fault where
  reason : String
  line : Nat
  column : Nat
  deriving DecidableEq, Repr

namespace Fault

/-- what stands in front of the line -/
def lineMark : List Char := " at line ".toList

/-- what stands in front of the column -/
def columnMark : List Char := " column ".toList

/-- The number below 2^64 at the end of a text and the part in front of its mark. The text is given
backwards, and so is the part. -/
def takeNumber? (mark backwards : List Char) : Option (Nat × List Char) := do
  let n ← Text.readBelow? UInt64.size (backwards.takeWhile Text.isDigit).reverse
  let front := backwards.dropWhile Text.isDigit
  if mark.reverse.isPrefixOf front then some (n, front.drop mark.length) else none

/-- the reason and the place that a text ends in -/
def placed? (text : String) : Option Fault := do
  let (column, front) ← takeNumber? columnMark text.toList.reverse
  let (line, front) ← takeNumber? lineMark front
  return { reason := String.ofList front.reverse, line, column }

/-- the fault that a text tells of -/
def ofText (text : String) : Fault := (placed? text).getD ⟨text, 0, 0⟩

def text (f : Fault) : String :=
  if f.line = 0 then f.reason
  else f.reason ++ String.ofList
    (lineMark ++ Text.digits f.line ++ columnMark ++ Text.digits f.column)

end Fault

end FabricRegistry.Json

/-!
Sets of characters given by closed ranges of code points.
-/

namespace FabricRegistry.Text

/-- closed ranges of code points, first and last, in ascending order -/
abbrev Ranges : Type := List (Nat × Nat)

/-- a character in one of the ranges -/
def Ranges.contains (r : Ranges) (c : Char) : Bool :=
  r.any fun (first, last) => first ≤ c.toNat && c.toNat ≤ last

end FabricRegistry.Text

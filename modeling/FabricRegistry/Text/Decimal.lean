/-!
Decimal digits of natural numbers. Main statement: reading the digits that `digits` writes gives
the number back.
-/

namespace FabricRegistry.Text

/-- the ASCII digits -/
def isDigit (c : Char) : Bool := '0' ≤ c && c ≤ '9'

/-- the digit of a number below ten -/
def digit (n : Nat) : Char := Char.ofNat (48 + n)

/-- the number a digit stands for -/
def digitValue (c : Char) : Nat := c.toNat - 48

/-- the digits of a number, the most significant first -/
def digits (n : Nat) : List Char :=
  if n < 10 then [digit n] else digits (n / 10) ++ [digit (n % 10)]
termination_by n
decreasing_by omega

/-- the number that a run of digits denotes -/
def digitsValue (ds : List Char) : Nat := ds.foldl (fun n c => 10 * n + digitValue c) 0

/-- a number of one or more digits, leading zeros allowed -/
def readDigits? (s : List Char) : Option Nat :=
  if s ≠ [] ∧ s.all isDigit then some (digitsValue s) else none

/-- a number with an optional plus in front, below `bound` -/
def readBelow? (bound : Nat) (s : List Char) : Option Nat := do
  let s := match s with
    | '+' :: rest => rest
    | _ => s
  let n ← readDigits? s
  if n < bound then some n else none

/-- the digits of a number behind as many zeros as make up `width` characters -/
def padded (width n : Nat) : List Char :=
  let ds := digits n
  List.replicate (width - ds.length) '0' ++ ds

theorem digitValue_digit {n : Nat} (h : n < 10) : digitValue (digit n) = n := by
  revert n
  decide

theorem isDigit_digit {n : Nat} (h : n < 10) : isDigit (digit n) = true := by
  revert n
  decide

theorem digits_ne_nil (n : Nat) : digits n ≠ [] := by
  rw [digits]
  split <;> simp

theorem all_isDigit_digits (n : Nat) : (digits n).all isDigit = true := by
  rw [digits]
  split
  next h => simp [isDigit_digit h]
  next h =>
    simp only [List.all_append, List.all_cons, List.all_nil, Bool.and_true, Bool.and_eq_true]
    exact ⟨all_isDigit_digits (n / 10), isDigit_digit (by omega)⟩
termination_by n
decreasing_by omega

theorem digitsValue_append_singleton (ds : List Char) (c : Char) :
    digitsValue (ds ++ [c]) = 10 * digitsValue ds + digitValue c := by
  simp [digitsValue]

theorem digitsValue_digits (n : Nat) : digitsValue (digits n) = n := by
  rw [digits]
  split
  next h => simp [digitsValue, digitValue_digit h]
  next h =>
    rw [digitsValue_append_singleton, digitsValue_digits (n / 10), digitValue_digit (by omega)]
    omega
termination_by n
decreasing_by omega

theorem readDigits?_digits (n : Nat) : readDigits? (digits n) = some n := by
  simp only [readDigits?, ne_eq, digits_ne_nil, not_false_eq_true, all_isDigit_digits, and_self,
    if_true, digitsValue_digits]

end FabricRegistry.Text

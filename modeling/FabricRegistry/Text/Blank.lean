/-!
Blank characters and trimming. A character is blank when it has the Unicode property White_Space;
the zero width space is not blank.
-/

namespace FabricRegistry.Text

/-- White_Space -/
def isBlank (c : Char) : Bool :=
  let n := c.toNat
  (0x09 ≤ n && n ≤ 0x0D) || n == 0x20 || n == 0x85 || n == 0xA0 || n == 0x1680 ||
    (0x2000 ≤ n && n ≤ 0x200A) || n == 0x2028 || n == 0x2029 || n == 0x202F || n == 0x205F ||
    n == 0x3000

/-- the text without the blanks at its front -/
def trimFront (s : List Char) : List Char := s.dropWhile isBlank

/-- the text without the blanks at either end -/
def trim (s : List Char) : List Char := (trimFront (trimFront s).reverse).reverse

def allBlank (s : List Char) : Bool := s.all isBlank

theorem trimFront_eq_nil_iff {s : List Char} : trimFront s = [] ↔ allBlank s = true := by
  induction s with
  | nil => simp [trimFront, allBlank]
  | cons c r ih =>
    cases h : isBlank c <;> simp_all [trimFront, allBlank]

theorem isBlank_of_trimFront {s r : List Char} {c : Char} (h : trimFront s = c :: r) :
    isBlank c = false := by
  induction s with
  | nil => simp [trimFront] at h
  | cons d s ih =>
    cases hd : isBlank d <;> simp_all [trimFront]

theorem trim_eq_nil_iff {s : List Char} : trim s = [] ↔ allBlank s = true := by
  rw [trim, List.reverse_eq_nil_iff, trimFront_eq_nil_iff]
  cases h : trimFront s with
  | nil => exact iff_of_true rfl (trimFront_eq_nil_iff.1 h)
  | cons c r =>
    have hs : allBlank s ≠ true := by
      rw [ne_eq, ← trimFront_eq_nil_iff, h]
      simp
    have hr : allBlank (c :: r).reverse ≠ true := by
      simp [allBlank, isBlank_of_trimFront h]
    exact iff_of_false hr hs

end FabricRegistry.Text

import FabricRegistry.Json.Numeral

/-!
The syntax of a JSON text, before anything in it is given a meaning: numbers are numerals, strings
are the pieces they are written in, members stand in the order of the text. A text that cannot be
kept, because it holds a lone surrogate or a number out of range, still has a tree.
-/

namespace FabricRegistry.Json

/-- a piece of a written string -/
inductive Piece where
  /-- a character, written as itself or by a letter behind a backslash -/
  | char (c : Char)
  /-- a UTF-16 unit, written by its four hexadecimal digits -/
  | unit (u : Nat)
  /-- a byte that belongs to no character -/
  | stray
  deriving DecidableEq, Repr

/-- the character of a surrogate pair -/
def surrogatePair (high low : Nat) : Char :=
  Char.ofNat (0x10000 + (high - 0xD800) * 0x400 + (low - 0xDC00))

/-- first half of a surrogate pair -/
def isHighSurrogate (u : Nat) : Bool := 0xD800 ≤ u && u < 0xDC00

/-- second half of a surrogate pair -/
def isLowSurrogate (u : Nat) : Bool := 0xDC00 ≤ u && u < 0xE000

/-- the characters that the pieces spell, none with a stray byte or a surrogate outside a pair -/
def Piece.spell? : List Piece → Option (List Char)
  | [] => some []
  | .char c :: rest => (spell? rest).map (c :: ·)
  | .stray :: _ => none
  | .unit u :: rest =>
    if isHighSurrogate u then
      match rest with
      | .unit v :: rest =>
        if isLowSurrogate v then (spell? rest).map (surrogatePair u v :: ·) else none
      | _ => none
    else if isLowSurrogate u then none
    else (spell? rest).map (Char.ofNat u :: ·)

/-- the text that the pieces spell -/
def Piece.text? (pieces : List Piece) : Option String :=
  (spell? pieces).map String.ofList

/-- the syntax of one value -/
inductive Tree where
  | null
  | bool (b : Bool)
  | number (n : Numeral)
  | string (pieces : List Piece)
  | array (items : List Tree)
  | object (members : List (List Piece × Tree))
  deriving Repr, Inhabited

end FabricRegistry.Json

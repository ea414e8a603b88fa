import FabricRegistry.Json.Value

/-!
The compact text of a value: no blanks, in strings a backslash only where JSON demands one.
-/

namespace FabricRegistry.Json

/-- a hexadecimal digit in lower case -/
def hexDigit (n : Nat) : Char := if n < 10 then Char.ofNat (48 + n) else Char.ofNat (87 + n)

/-- the characters that write `c` in a string -/
def escape (c : Char) : List Char :=
  match c with
  | '"' => ['\\', '"']
  | '\\' => ['\\', '\\']
  | '\x08' => ['\\', 'b']
  | '\x0c' => ['\\', 'f']
  | '\n' => ['\\', 'n']
  | '\r' => ['\\', 'r']
  | '\t' => ['\\', 't']
  | _ =>
    if c.toNat < 0x20 then
      ['\\', 'u', '0', '0', hexDigit (c.toNat / 16), hexDigit (c.toNat % 16)]
    else [c]

def stringChars (s : String) : List Char := '"' :: s.toList.flatMap escape ++ ['"']

def intChars : Int → List Char
  | .ofNat n => Text.digits n
  | .negSucc n => '-' :: Text.digits (n + 1)

namespace Value

mutual
/-- the compact text of a value -/
def chars : Value → List Char
  | .null => ['n', 'u', 'l', 'l']
  | .bool true => ['t', 'r', 'u', 'e']
  | .bool false => ['f', 'a', 'l', 's', 'e']
  | .int n => intChars n
  | .double x => x.chars
  | .string s => stringChars s
  | .array [] => ['[', ']']
  | .array (v :: rest) => '[' :: (chars v ++ itemsChars rest)
  | .object [] => ['{', '}']
  | .object ((key, v) :: rest) => '{' :: (stringChars key ++ ':' :: (chars v ++ membersChars rest))

/-- the items behind the first one and the closing bracket -/
def itemsChars : List Value → List Char
  | [] => [']']
  | v :: rest => ',' :: (chars v ++ itemsChars rest)

/-- the members behind the first one and the closing brace -/
def membersChars : List (String × Value) → List Char
  | [] => ['}']
  | (key, v) :: rest => ',' :: (stringChars key ++ ':' :: (chars v ++ membersChars rest))
end

/-- the compact text of a value -/
def text (v : Value) : String := String.ofList v.chars

end Value

/-- the compact text of an object whose members keep their order -/
def recordText (members : List (String × Value)) : String := (Value.object members).text

end FabricRegistry.Json

import FabricRegistry.Text.Concealed

/-!
Texts in double quotes, as messages show them: the quote and the backslash behind a backslash, the
common controls by their letters, every other character without a mark of its own by its number.
-/

namespace FabricRegistry.Text

/-- the characters that show `c` between double quotes -/
def quotedChar (c : Char) : List Char :=
  match c with
  | '"' => ['\\', '"']
  | '\\' => ['\\', '\\']
  | '\n' => ['\\', 'n']
  | '\r' => ['\\', 'r']
  | '\t' => ['\\', 't']
  | '\x00' => ['\\', '0']
  | _ =>
    if isConcealed c then ['\\', 'u', '\x7b'] ++ Nat.toDigits 16 c.toNat ++ ['\x7d'] else [c]

def quoted (s : String) : String :=
  String.ofList (['"'] ++ s.toList.flatMap quotedChar ++ ['"'])

end FabricRegistry.Text

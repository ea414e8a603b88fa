import FabricRegistry.Text.LetterCase

/-!
The scheme at the front of an address: a letter, then letters, digits, `+`, `-` and `.`, then a
colon.
-/

namespace FabricRegistry.Text

def isSchemeChar (c : Char) : Bool := c.isAlphanum || c = '+' || c = '-' || c = '.'

/-- the scheme in lower case, and what follows its colon -/
def splitScheme? (s : List Char) : Option (List Char × List Char) :=
  match s.dropWhile isSchemeChar with
  | ':' :: rest =>
    let scheme := s.takeWhile isSchemeChar
    if scheme.head?.any Char.isAlpha then some (scheme.map lowerAscii, rest) else none
  | _ => none

end FabricRegistry.Text

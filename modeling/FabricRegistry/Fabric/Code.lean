import FabricRegistry.Json.Fault
import FabricRegistry.Json.Value

/-!
Codes of fabrics, and the rules that what a caller gives can break.
-/

namespace FabricRegistry

/-- a rule that a given text breaks -/
inductive ValidationError where
  /-- a code of the wrong length -/
  | codeLength (length : Nat)
  /-- a code with a character other than `A` to `Z` and `0` to `9` -/
  | codePattern (text : String)
  /-- a name of the wrong length -/
  | nameLength (length : Nat)
  deriving DecidableEq, Repr

namespace ValidationError

def message : ValidationError → String
  | codeLength n => s!"fabric code must be between 2 and 30 characters: got {n}"
  | codePattern text => s!"fabric code must contain only uppercase letters and digits: {text}"
  | nameLength n => s!"fabric name must be between 1 and 250 characters: got {n}"

end ValidationError

/-- an upper case letter or a digit of ASCII -/
def isCodeChar (c : Char) : Bool := ('A' ≤ c && c ≤ 'Z') || ('0' ≤ c && c ≤ '9')

/-- the identity of a fabric -/
structure Code where
  text : String
  length_mem : 2 ≤ text.length ∧ text.length ≤ 30
  chars_mem : text.toList.all isCodeChar = true
  deriving DecidableEq, Repr

namespace Code

/-- the code that a text is; its length is checked before its characters -/
def ofString (text : String) : Except ValidationError Code :=
  if hl : 2 ≤ text.length ∧ text.length ≤ 30 then
    if hc : text.toList.all isCodeChar = true then .ok ⟨text, hl, hc⟩
    else .error (.codePattern text)
  else .error (.codeLength text.length)

instance : ToString Code := ⟨text⟩

/-- the order of the texts by code point -/
def compare (a : Code) (b : Code) : Ordering :=
  if Json.precedes a.text b.text then .lt else if a.text = b.text then .eq else .gt

theorem ofString_text (c : Code) : ofString c.text = .ok c := by
  simp [ofString, c.length_mem, c.chars_mem]

theorem text_of_ofString {s : String} {c : Code} (h : ofString s = .ok c) : c.text = s := by
  unfold ofString at h
  split at h
  · split at h
    · injection h with h
      rw [← h]
    · cases h
  · cases h

end Code

/-- why a JSON value does not denote what it should -/
inductive DecodeError where
  /-- not of the right form -/
  | malformed
  /-- a text in the place of a code that is none -/
  | invalidCode (e : ValidationError)
  deriving DecidableEq, Repr

namespace DecodeError

/-- the value, or a wrong form -/
def orMalformed {α : Type} : Option α → Except DecodeError α
  | some a => .ok a
  | none => .error .malformed

/-- What is wrong with a code, as a fault of JSON in words. A wrong form has no words of its own. -/
def message? : DecodeError → Option String
  | malformed => none
  | invalidCode e => some (Json.Fault.ofText e.message).text

end DecodeError

/-- the code that a JSON value denotes -/
def Code.ofValue (v : Json.Value) : Except DecodeError Code :=
  match v with
  | .string s => (Code.ofString s).mapError .invalidCode
  | _ => .error .malformed

end FabricRegistry

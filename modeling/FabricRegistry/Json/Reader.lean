import FabricRegistry.Json.Tree
import FabricRegistry.Text.Utf8

/-!
Reading the tree of a JSON text, character by character. The reader keeps the containers that are
open, innermost first, so nesting is unlimited. Spaces, tabs and line ends may stand around tokens;
a word (`null`, `true`, `false` or a number) reaches to the next character that is not its own.
-/

namespace FabricRegistry.Json

/-- the part of a text that carries structure -/
inductive Token where
  | openArray
  | closeArray
  | openObject
  | closeObject
  | comma
  | colon
  | string (pieces : List Piece)
  /-- a literal: `null`, `true`, `false` or a number -/
  | word (t : Tree)

/-- an open container with what it holds so far, in reverse -/
inductive Frame where
  | array (items : List Tree)
  /-- the value of the member `name` is being read -/
  | object (members : List (List Piece × Tree)) (name : List Piece)

/-- the place a reader has reached, within the open containers -/
inductive Place where
  /-- before a value -/
  | value (outer : List Frame)
  /-- behind an opening bracket -/
  | firstItem (outer : List Frame)
  /-- behind an opening brace -/
  | firstKey (outer : List Frame)
  /-- behind a comma in an object -/
  | key (outer : List Frame) (members : List (List Piece × Tree))
  /-- behind the name of a member -/
  | colon (outer : List Frame) (members : List (List Piece × Tree)) (name : List Piece)
  /-- behind a value -/
  | after (outer : List Frame) (t : Tree)

namespace Place

/-- a token where a value may start -/
def startValue? (outer : List Frame) : Token → Option Place
  | .openArray => some (.firstItem outer)
  | .openObject => some (.firstKey outer)
  | .string pieces => some (.after outer (.string pieces))
  | .word t => some (.after outer t)
  | _ => none

def endValue? (t : Tree) : List Frame → Token → Option Place
  | .array items :: outer, .comma => some (.value (.array (t :: items) :: outer))
  | .array items :: outer, .closeArray => some (.after outer (.array (t :: items).reverse))
  | .object members name :: outer, .comma => some (.key outer ((name, t) :: members))
  | .object members name :: outer, .closeObject =>
    some (.after outer (.object ((name, t) :: members).reverse))
  | _, _ => none

/-- the place behind one more token -/
def next? : Place → Token → Option Place
  | .value outer, token => startValue? outer token
  | .firstItem outer, .closeArray => some (.after outer (.array []))
  | .firstItem outer, token => startValue? (.array [] :: outer) token
  | .firstKey outer, .closeObject => some (.after outer (.object []))
  | .firstKey outer, .string name => some (.colon outer [] name)
  | .key outer members, .string name => some (.colon outer members name)
  | .colon outer members name, .colon => some (.value (.object members name :: outer))
  | .after outer t, token => endValue? t outer token
  | _, _ => none

end Place

/-- what the characters last read belong to -/
inductive Mode where
  /-- between tokens -/
  | between
  /-- a word, reversed -/
  | word (read : List Char)
  /-- a string, its pieces reversed -/
  | string (read : List Piece)
  /-- a string, behind a backslash -/
  | escape (read : List Piece)
  /-- a string, behind `\u` and some hexadecimal digits -/
  | hex (read : List Piece) (count value : Nat)

/-- a reader in the middle of a text -/
structure Reader where
  mode : Mode
  place : Place

def isSpace (c : Char) : Bool := c = ' ' || c = '\t' || c = '\n' || c = '\r'

/-- the token that a single character is -/
def punctuation? : Char → Option Token
  | '[' => some .openArray
  | ']' => some .closeArray
  | '{' => some .openObject
  | '}' => some .closeObject
  | ',' => some .comma
  | ':' => some .colon
  | _ => none

/-- the value that a word denotes -/
def wordTree? (word : List Char) : Option Tree :=
  if word = ['n', 'u', 'l', 'l'] then some .null
  else if word = ['t', 'r', 'u', 'e'] then some (.bool true)
  else if word = ['f', 'a', 'l', 's', 'e'] then some (.bool false)
  else (Numeral.ofWord? word).map .number

/-- the character that a letter stands for behind a backslash -/
def escaped? : Char → Option Char
  | '"' => some '"'
  | '\\' => some '\\'
  | '/' => some '/'
  | 'b' => some '\x08'
  | 'f' => some '\x0c'
  | 'n' => some '\n'
  | 'r' => some '\r'
  | 't' => some '\t'
  | _ => none

/-- the value of a hexadecimal digit of either case -/
def hexValue? (c : Char) : Option Nat :=
  if '0' ≤ c ∧ c ≤ '9' then some (c.toNat - 48)
  else if 'a' ≤ c ∧ c ≤ 'f' then some (c.toNat - 87)
  else if 'A' ≤ c ∧ c ≤ 'F' then some (c.toNat - 55)
  else none

namespace Reader

def start : Reader := ⟨.between, .value []⟩

def stepBetween (place : Place) (c : Char) : Option Reader :=
  if isSpace c then some ⟨.between, place⟩
  else if c = '"' then some ⟨.string [], place⟩
  else
    match punctuation? c with
    | some token => (place.next? token).map (⟨.between, ·⟩)
    | none => some ⟨.word [c], place⟩

def endWord? (read : List Char) (place : Place) : Option Place := do
  place.next? (.word (← wordTree? read.reverse))

/-- one more character, or one more byte that belongs to none -/
def step (r : Reader) (g : Option Char) : Option Reader :=
  match r.mode, g with
  | .between, some c => stepBetween r.place c
  | .word read, some c =>
    if isSpace c || c = '"' || (punctuation? c).isSome then do
      stepBetween (← endWord? read r.place) c
    else some ⟨.word (c :: read), r.place⟩
  | .string read, some c =>
    if c = '"' then (r.place.next? (.string read.reverse)).map (⟨.between, ·⟩)
    else if c = '\\' then some ⟨.escape read, r.place⟩
    else if c.toNat < 0x20 then none
    else some ⟨.string (.char c :: read), r.place⟩
  | .string read, none => some ⟨.string (.stray :: read), r.place⟩
  | .escape read, some c =>
    if c = 'u' then some ⟨.hex read 0 0, r.place⟩
    else (escaped? c).map fun e => ⟨.string (.char e :: read), r.place⟩
  | .hex read count value, some c => do
    let value := 16 * value + (← hexValue? c)
    if count < 3 then some ⟨.hex read (count + 1) value, r.place⟩
    else some ⟨.string (.unit value :: read), r.place⟩
  | _, none => none

/-- the tree, if the text may end here -/
def finish? (r : Reader) : Option Tree := do
  let place ← match r.mode with
    | .between => some r.place
    | .word read => endWord? read r.place
    | _ => none
  match place with
  | .after [] t => some t
  | _ => none

end Reader

/-- the tree of a text given in characters -/
def Tree.read? (text : List (Option Char)) : Option Tree := do
  (← text.foldlM Reader.step Reader.start).finish?

/-- the tree of a text given in bytes -/
def Tree.ofBytes? (bytes : ByteArray) : Option Tree := read? (Text.decode bytes)

def Tree.ofText? (text : String) : Option Tree := read? (text.toList.map some)

end FabricRegistry.Json

/-!
Bytes read as UTF-8, as far as they are UTF-8. A byte that starts no well-formed character stands
for itself as `none`, and reading goes on with the next byte, so an ASCII character is never
swallowed by a damaged one before it. Main statement: the bytes of a text are read as its
characters.
-/

namespace FabricRegistry.Text

/-- the characters from position `i` on, `none` for every byte that belongs to no character -/
def decodeFrom (bytes : ByteArray) (i : Nat) : List (Option Char) :=
  if i < bytes.size then
    match bytes.utf8DecodeChar? i with
    | some c => some c :: decodeFrom bytes (i + c.utf8Size)
    | none => none :: decodeFrom bytes (i + 1)
  else []
termination_by bytes.size - i
decreasing_by
  · have := Char.utf8Size_pos c
    omega
  · omega

/-- the characters of a text given in bytes, `none` for every byte that belongs to no character -/
def decode (bytes : ByteArray) : List (Option Char) := decodeFrom bytes 0

/-- the text, if the bytes are well-formed throughout -/
def ofBytes? (bytes : ByteArray) : Option String :=
  (decode bytes).mapM id |>.map String.ofList

theorem size_utf8Encode_singleton (c : Char) : [c].utf8Encode.size = c.utf8Size := by
  rw [← String.length_utf8EncodeChar c]
  simp [List.utf8Encode_singleton, List.size_toByteArray]

theorem decodeFrom_utf8Encode (before rest : List Char) :
    decodeFrom (before ++ rest).utf8Encode before.utf8Encode.size = rest.map some := by
  induction rest generalizing before with
  | nil => rw [decodeFrom]; simp
  | cons c rest ih =>
    have hc : (before ++ c :: rest).utf8Encode.utf8DecodeChar? before.utf8Encode.size = some c := by
      rw [ByteArray.utf8DecodeChar?_eq_utf8DecodeChar?_extract, List.utf8Encode_append,
        ByteArray.extract_append_eq_right rfl (by simp), List.utf8DecodeChar?_utf8Encode_cons]
    have hlt : before.utf8Encode.size < (before ++ c :: rest).utf8Encode.size := by
      have := Char.utf8Size_pos c
      rw [List.utf8Encode_append, List.utf8Encode_cons, ByteArray.size_append,
        ByteArray.size_append, size_utf8Encode_singleton]
      omega
    have hsize : (before ++ [c]).utf8Encode.size = before.utf8Encode.size + c.utf8Size := by
      rw [List.utf8Encode_append, ByteArray.size_append, size_utf8Encode_singleton]
    have hnext := ih (before ++ [c])
    rw [List.append_assoc, List.singleton_append, hsize] at hnext
    rw [decodeFrom, if_pos hlt, hc]
    exact congrArg (some c :: ·) hnext

/-- The bytes of a text are read as its characters. -/
theorem decode_toUTF8 (s : String) : decode s.toUTF8 = s.toList.map some := by
  have := decodeFrom_utf8Encode [] s.toList
  simpa [decode, String.utf8Encode_toList] using this

end FabricRegistry.Text

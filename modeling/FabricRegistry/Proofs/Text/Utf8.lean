import FabricRegistry.Text.Utf8
import Mathlib.Algebra.Group.Nat.Defs

/-!
Bytes taken apart at a character. What stands before the bytes of a character, and what stands
behind them, is read as if it stood alone (`decode_append_char`); and where a character is read, its
bytes stand between the bytes of what is read before it and behind it (`exists_of_decode_eq`).
-/

namespace FabricRegistry.Text

variable {b d : ByteArray} {c : Char}

/-- the bytes of a character -/
abbrev charBytes (c : Char) : ByteArray := (String.utf8EncodeChar c).toByteArray

theorem size_charBytes (c : Char) : (charBytes c).size = c.utf8Size := by
  rw [charBytes, List.size_toByteArray, String.length_utf8EncodeChar]

/-! ### The first character -/

theorem utf8DecodeChar?_append (a b : ByteArray) (i : ℕ) :
    (a ++ b).utf8DecodeChar? (a.size + i) = b.utf8DecodeChar? i := by
  rw [ByteArray.utf8DecodeChar?_eq_utf8DecodeChar?_extract, ByteArray.size_append,
    ByteArray.extract_append_size_add, ← ByteArray.utf8DecodeChar?_eq_utf8DecodeChar?_extract]

/-- What stands before a position does not matter from there on. -/
theorem decodeFrom_append (a b : ByteArray) (i : ℕ) :
    decodeFrom (a ++ b) (a.size + i) = decodeFrom b i := by
  fun_induction decodeFrom b i with
  | case1 i hi c hc ih =>
    rw [decodeFrom, ByteArray.size_append, if_pos (Nat.add_lt_add_left hi a.size),
      utf8DecodeChar?_append, hc]
    exact congrArg (some c :: ·) ((congrArg _ (Nat.add_assoc ..)).trans ih)
  | case2 i hi hc ih =>
    rw [decodeFrom, ByteArray.size_append, if_pos (Nat.add_lt_add_left hi a.size),
      utf8DecodeChar?_append, hc]
    exact congrArg (none :: ·) ih
  | case3 i hi =>
    rw [decodeFrom, ByteArray.size_append, if_neg (by omega)]

theorem decode_empty : decode .empty = [] := by
  rw [decode, decodeFrom]
  rfl

/-- The bytes of a character in front are read as the character. -/
theorem decode_char_append (c : Char) (b : ByteArray) :
    decode (charBytes c ++ b) = some c :: decode b := by
  have hrest := decodeFrom_append (charBytes c) b 0
  have hpos := Char.utf8Size_pos c
  rw [Nat.add_zero, size_charBytes] at hrest
  rw [decode, decodeFrom, ByteArray.utf8DecodeChar?_utf8EncodeChar_append, ByteArray.size_append,
    size_charBytes, if_pos (by omega)]
  simp only [Nat.zero_add, hrest, decode]

/-- A byte that starts no character is passed over. -/
theorem decode_stray_append {a : ByteArray} (ha : a.size = 1)
    (h : (a ++ b).utf8DecodeChar? 0 = none) : decode (a ++ b) = none :: decode b := by
  have hrest := decodeFrom_append a b 0
  rw [Nat.add_zero, ha] at hrest
  rw [decode, decodeFrom, h, ByteArray.size_append, if_pos (by omega)]
  simp only [Nat.zero_add, hrest, decode]

/-- Bytes are none, or they begin with a character, or with a byte that starts none. -/
theorem decode_cases (b : ByteArray) :
    b = .empty ∨ (∃ c rest, b = charBytes c ++ rest ∧ decode b = some c :: decode rest) ∨
      ∃ a rest, a.size = 1 ∧ b = a ++ rest ∧ b.utf8DecodeChar? 0 = none ∧
        decode b = none :: decode rest := by
  rcases Nat.eq_zero_or_pos b.size with hsize | hsize
  · exact Or.inl (ByteArray.size_eq_zero_iff.mp hsize)
  · cases hc : b.utf8DecodeChar? 0 with
    | some c =>
      obtain ⟨rest, rfl⟩ := ByteArray.exists_of_utf8DecodeChar?_eq_some hc
      exact Or.inr (Or.inl ⟨c, rest, rfl, decode_char_append c rest⟩)
    | none =>
      have hsplit : b.extract 0 1 ++ b.extract 1 b.size = b := by
        rw [← ByteArray.extract_eq_extract_append_extract 1 (by omega) (by omega),
          ByteArray.extract_zero_size]
      have hone : (b.extract 0 1).size = 1 := by
        rw [ByteArray.size_extract]
        omega
      have hstray := decode_stray_append hone (hsplit.symm ▸ hc)
      rw [hsplit] at hstray
      exact Or.inr (Or.inr ⟨_, _, hone, hsplit.symm, rfl, hstray⟩)

/-! ### Taking apart -/

/-- A character is not read across the beginning of another one. -/
theorem utf8Size_le_of_append {a : ByteArray} {c' : Char} (ha : 0 < a.size)
    (h : (a ++ (charBytes c ++ d)).utf8DecodeChar? 0 = some c') : c'.utf8Size ≤ a.size := by
  obtain ⟨l, hl⟩ := ByteArray.exists_of_utf8DecodeChar?_eq_some h
  refine Nat.le_of_not_lt fun hlt => ?_
  -- the first byte of `c` would be one of the later bytes of `c'`
  have hc' : a.size < (String.utf8EncodeChar c').length := by
    rw [String.length_utf8EncodeChar]
    omega
  have hsize : a.size < (a ++ (charBytes c ++ d)).size := by
    have hpos := Char.utf8Size_pos c
    rw [ByteArray.size_append, ByteArray.size_append, size_charBytes]
    omega
  have hfirst : (a ++ (charBytes c ++ d))[a.size].IsUTF8FirstByte := by
    rw [ByteArray.getElem_append_right (Nat.le_refl _)]
    simpa using ByteArray.isUTF8FirstByte_getElem_zero_utf8EncodeChar_append (c := c) (b := d)
  have hbyte : (a ++ (charBytes c ++ d))[a.size] = (String.utf8EncodeChar c')[a.size] := by
    simp only [hl]
    rw [ByteArray.getElem_append_left (by rwa [List.size_toByteArray]), List.getElem_toByteArray]
  rw [hbyte] at hfirst
  exact Nat.ne_of_gt ha (UInt8.isUTF8FirstByte_getElem_utf8EncodeChar.mp hfirst)

/-- A character that is read before another one is read from the bytes before it alone. -/
theorem utf8DecodeChar?_of_append {a : ByteArray} {c' : Char} (ha : 0 < a.size)
    (h : (a ++ (charBytes c ++ d)).utf8DecodeChar? 0 = some c') :
    a.utf8DecodeChar? 0 = some c' := by
  have hle := utf8Size_le_of_append ha h
  obtain ⟨l, hl⟩ := ByteArray.exists_of_utf8DecodeChar?_eq_some h
  have hfront : a.extract 0 c'.utf8Size = charBytes c' := by
    have hextract := congrArg (ByteArray.extract · 0 c'.utf8Size) hl
    simp only [ByteArray.extract_append, Nat.zero_sub, Nat.sub_eq_zero_of_le hle,
      List.size_toByteArray, String.length_utf8EncodeChar, Nat.sub_self,
      ByteArray.extract_same, ByteArray.append_empty] at hextract
    rw [hextract, ← size_charBytes, ByteArray.extract_zero_size]
  have hsplit : a = charBytes c' ++ a.extract c'.utf8Size a.size := by
    rw [← hfront, ← ByteArray.extract_eq_extract_append_extract _ (Nat.zero_le _) hle,
      ByteArray.extract_zero_size]
  rw [hsplit]
  exact ByteArray.utf8DecodeChar?_utf8EncodeChar_append

/-- **Bytes on both sides of a character are read as if they stood alone.** -/
theorem decode_append_char (a : ByteArray) (c : Char) (d : ByteArray) :
    decode (a ++ (charBytes c ++ d)) = decode a ++ some c :: decode d := by
  induction hsize : a.size using Nat.strongRecOn generalizing a with
  | ind n ih =>
    rcases decode_cases a with rfl | ⟨c', rest, rfl, ha⟩ | ⟨byte, rest, hone, rfl, hnone, ha⟩
    · rw [ByteArray.empty_append, decode_char_append, decode_empty, List.nil_append]
    · have hpos := Char.utf8Size_pos c'
      rw [ByteArray.size_append, size_charBytes] at hsize
      rw [ByteArray.append_assoc, decode_char_append, ih _ (by omega) rest rfl, ha,
        List.cons_append]
    · rw [ByteArray.size_append] at hsize
      have hstray : (byte ++ (rest ++ (charBytes c ++ d))).utf8DecodeChar? 0 = none := by
        cases hc : (byte ++ (rest ++ (charBytes c ++ d))).utf8DecodeChar? 0 with
        | none => rfl
        | some c' =>
          rw [← ByteArray.append_assoc] at hc
          have hshort := utf8DecodeChar?_of_append (by rw [ByteArray.size_append]; omega) hc
          rw [hnone] at hshort
          cases hshort
      rw [ByteArray.append_assoc, decode_stray_append hone hstray, ih _ (by omega) rest rfl, ha,
        List.cons_append]

/-- **Where a character is read, the bytes can be taken apart.** -/
theorem exists_of_decode_eq {b : ByteArray} {x y : List (Option Char)}
    (h : decode b = x ++ some c :: y) :
    ∃ a d, b = a ++ (charBytes c ++ d) ∧ decode a = x ∧ decode d = y := by
  induction x generalizing b with
  | nil =>
    rcases decode_cases b with rfl | ⟨c', rest, rfl, hb⟩ | ⟨byte, rest, -, -, -, hb⟩
    · rw [decode_empty] at h
      cases h
    · rw [hb] at h
      cases h
      exact ⟨.empty, rest, ByteArray.empty_append.symm, decode_empty, rfl⟩
    · rw [hb] at h
      cases h
  | cons g x ih =>
    rcases decode_cases b with rfl | ⟨c', rest, rfl, hb⟩ | ⟨byte, rest, hone, rfl, hnone, hb⟩
    · rw [decode_empty] at h
      cases h
    · rw [hb, List.cons_append] at h
      obtain ⟨rfl, hrest⟩ := List.cons.inj h
      obtain ⟨a, d, rfl, ha, hd⟩ := ih hrest
      exact ⟨charBytes c' ++ a, d, ByteArray.append_assoc.symm, by rw [decode_char_append, ha], hd⟩
    · rw [hb, List.cons_append] at h
      obtain ⟨rfl, hrest⟩ := List.cons.inj h
      obtain ⟨a, d, rfl, ha, hd⟩ := ih hrest
      have hstray : (byte ++ a).utf8DecodeChar? 0 = none := by
        cases hc : (byte ++ a).utf8DecodeChar? 0 with
        | none => rfl
        | some c' =>
          have hlonger := ByteArray.utf8DecodeChar?_append_eq_some hc (charBytes c ++ d)
          rw [ByteArray.append_assoc, hnone] at hlonger
          cases hlonger
      exact ⟨byte ++ a, d, ByteArray.append_assoc.symm, by rw [decode_stray_append hone hstray, ha],
        hd⟩

end FabricRegistry.Text

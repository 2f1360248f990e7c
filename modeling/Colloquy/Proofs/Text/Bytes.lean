import Colloquy.Proofs.Text.Slices
import Colloquy.Text.Utf8

/-!
# Characters in the bytes of a text

A character of one byte is less than every byte of a character of several bytes.  So at a
place of a text stands such a byte exactly where such a character starts
(`getElem?_encodeUtf8`), however many bytes the other characters have.
-/

namespace Colloquy.Text

/-! ## The bytes of a text -/

private theorem toList_loop_eq (bytes : ByteArray) (place : Nat) (read : List UInt8) :
    ByteArray.toList.loop bytes place read = read.reverse ++ bytes.data.toList.drop place := by
  fun_induction ByteArray.toList.loop bytes place read with
  | case1 place read hlt ih =>
      have hlen : place < bytes.data.toList.length := hlt
      have hget : bytes.get! place = bytes.data.toList[place] := by
        show bytes.data[place]! = _
        rw [getElem!_pos bytes.data place hlt, Array.getElem_toList]
      rw [ih, List.drop_eq_getElem_cons hlen, hget]
      simp
  | case2 place read hle =>
      have hlen : bytes.data.toList.length ≤ place := Nat.le_of_not_lt hle
      rw [List.drop_eq_nil_of_le hlen, List.append_nil]

/-- The bytes of a text are those of its characters. -/
theorem encodeUtf8_eq (text : String) :
    encodeUtf8 text = text.toList.flatMap String.utf8EncodeChar := by
  rw [encodeUtf8, String.toUTF8_eq_toByteArray, ← String.utf8Encode_toList, ByteArray.toList,
    toList_loop_eq, List.utf8Encode]
  simp

theorem length_encodeUtf8 (text : String) : (encodeUtf8 text).length = byteSize text.toList := by
  rw [encodeUtf8_eq]
  induction text.toList with
  | nil => rfl
  | cons c cs ih =>
      rw [List.flatMap_cons, List.length_append, ih, String.length_utf8EncodeChar, byteSize_cons]

/-! ## Characters of one byte -/

/-- The bytes of a character of several bytes. -/
theorem le_of_mem_utf8EncodeChar {c : Char} (h : c.utf8Size ≠ 1) {b : UInt8}
    (hb : b ∈ String.utf8EncodeChar c) : 0x80 ≤ b.toNat := by
  -- each of them is or-ed with a mark of that bit at least
  have hor : ∀ a k : UInt8, 0x80 ≤ k.toNat → 0x80 ≤ (a ||| k).toNat := by
    intro a k hk
    rw [UInt8.toNat_or]
    exact Nat.le_trans hk Nat.right_le_or
  rcases c.utf8Size_eq with h1 | h2 | h3 | h4
  · exact absurd h1 h
  · rw [String.utf8EncodeChar_eq_cons_cons h2] at hb
    simp only [List.mem_cons, List.not_mem_nil, or_false] at hb
    rcases hb with rfl | rfl <;> exact hor _ _ (by decide)
  · rw [String.utf8EncodeChar_eq_cons_cons_cons h3] at hb
    simp only [List.mem_cons, List.not_mem_nil, or_false] at hb
    rcases hb with rfl | rfl | rfl <;> exact hor _ _ (by decide)
  · rw [String.utf8EncodeChar_eq_cons_cons_cons_cons h4] at hb
    simp only [List.mem_cons, List.not_mem_nil, or_false] at hb
    rcases hb with rfl | rfl | rfl | rfl <;> exact hor _ _ (by decide)

/-- The byte of a character of one byte. -/
theorem toNat_toUInt8 {c : Char} (h : c.utf8Size = 1) :
    c.val.toUInt8.toNat = c.val.toNat ∧ c.val.toNat < 0x80 := by
  have hlt : c.val.toNat < 0x80 := by
    have hle := Char.utf8Size_eq_one_iff.1 h
    rw [UInt32.le_iff_toNat_le] at hle
    exact Nat.lt_succ_of_le hle
  refine ⟨?_, hlt⟩
  rw [UInt32.toNat_toUInt8]
  omega

theorem toUInt8_inj {c d : Char} (hc : c.utf8Size = 1) (hd : d.utf8Size = 1) :
    d.val.toUInt8 = c.val.toUInt8 ↔ d = c := by
  rw [← UInt8.toNat_inj, (toNat_toUInt8 hc).1, (toNat_toUInt8 hd).1, UInt32.toNat_inj,
    Char.val_inj]

/-! ## Characters at places -/

/-- A place inside the first character. -/
theorem charAt?_cons_of_lt {d : Char} {cs : List Char} {place : Nat} (h : place < d.utf8Size) :
    charAt? place (d :: cs) = if place = 0 then some d else none := by
  cases place with
  | zero => rfl
  | succ n => rw [charAt?, dropBytes, if_neg (by omega), Option.bind_none, if_neg (by omega)]

/-- At a place stands the byte of a character of one byte when that character starts there. -/
theorem getElem?_encodeUtf8 {c : Char} (hc : c.utf8Size = 1) (text : String) (place : Nat) :
    (encodeUtf8 text)[place]? = some c.val.toUInt8 ↔ charAt? place text.toList = some c := by
  rw [encodeUtf8_eq]
  induction text.toList generalizing place with
  | nil => cases place <;> simp [charAt?, dropBytes]
  | cons d cs ih =>
      rw [List.flatMap_cons]
      by_cases hlt : place < d.utf8Size
      · have hlen : place < (String.utf8EncodeChar d).length := by
          rwa [String.length_utf8EncodeChar]
        rw [List.getElem?_append_left hlen, charAt?_cons_of_lt hlt]
        by_cases hd : d.utf8Size = 1
        · obtain rfl : place = 0 := by omega
          rw [String.utf8EncodeChar_eq_singleton hd]
          simpa using toUInt8_inj hc hd
        · -- neither the byte nor the character can be that of one byte
          have hbyte : (String.utf8EncodeChar d)[place]? ≠ some c.val.toUInt8 := by
            intro h
            have hle := le_of_mem_utf8EncodeChar hd (List.mem_of_getElem? h)
            have := toNat_toUInt8 hc
            omega
          have hchar : (if place = 0 then some d else none) ≠ some c := by
            split
            · rintro ⟨⟩
              exact hd hc
            · rintro ⟨⟩
          exact iff_of_false hbyte hchar
      · obtain ⟨n, rfl⟩ := Nat.exists_eq_add_of_le (Nat.le_of_not_lt hlt)
        rw [List.getElem?_append_right (by rw [String.length_utf8EncodeChar]; omega),
          String.length_utf8EncodeChar, Nat.add_sub_cancel_left, ih, charAt?, charAt?,
          dropBytes_cons]

end Colloquy.Text

import InboxAudit.Text.Utf8

/-!
# UTF-8 read back

The bytes of a character are read as this character (`decodeFrom_utf8EncodeChar`): its lead byte
asks for as many continuation bytes as follow, and each of them adds six bits. So every text is
read back from its bytes (`ofUtf8?_toUtf8`).
-/

namespace InboxAudit.Text
set_option autoImplicit false

namespace Glyph

section Steps

variable {n bits missing low high : Nat} (rest : List UInt8)

theorem toNat_byte (byte : n < 256) : (UInt8.ofNat n).toNat = n := by
  rw [UInt8.toNat_ofNat']
  exact Nat.mod_eq_of_lt byte

theorem decodeFrom_single (small : n < 0x80) :
    decodeFrom none (UInt8.ofNat n :: rest) = some (Char.ofNat n) :: decodeFrom none rest := by
  simp [decodeFrom, toNat_byte (show n < 256 by omega), small]

/-- A lead byte opens a character. -/
theorem decodeFrom_lead (byte : n < 256) (large : 0x80 ≤ n)
    (opens : lead n = some (missing, low, high, bits)) :
    decodeFrom none (UInt8.ofNat n :: rest) = decodeFrom (some ⟨bits, missing, low, high⟩) rest := by
  rw [decodeFrom]
  simp only [toNat_byte byte, if_neg (Nat.not_lt.2 large), opens]
  rfl

/-- A continuation byte that is not the last one adds its bits. -/
theorem decodeFrom_next (byte : n < 256) (above : low ≤ n) (below : n ≤ high) :
    decodeFrom (some ⟨bits, missing + 2, low, high⟩) (UInt8.ofNat n :: rest) =
      decodeFrom (some ⟨bits * 64 + (n - 0x80), missing + 1, 0x80, 0xBF⟩) rest := by
  rw [decodeFrom]
  simp only [toNat_byte byte, if_pos (And.intro above below)]
  rw [if_neg (by omega), Nat.add_sub_assoc (by omega)]

theorem decodeFrom_last (byte : n < 256) (above : low ≤ n) (below : n ≤ high) :
    decodeFrom (some ⟨bits, 1, low, high⟩) (UInt8.ofNat n :: rest) =
      some (Char.ofNat (bits * 64 + (n - 0x80))) :: decodeFrom none rest := by
  rw [decodeFrom]
  simp only [toNat_byte byte, if_pos (And.intro above below), if_pos (Nat.le_refl 1)]

end Steps

section Lengths

variable {v : Nat} (rest : List UInt8)

theorem decodeFrom_two (large : 0x80 ≤ v) (small : v < 0x800) :
    decodeFrom none (UInt8.ofNat (v / 64 % 32 + 192) :: UInt8.ofNat (v % 64 + 128) :: rest) =
      some (Char.ofNat v) :: decodeFrom none rest := by
  have opens : lead (v / 64 % 32 + 192) = some (1, 0x80, 0xBF, v / 64) := by
    rw [lead, if_pos (by omega), show v / 64 % 32 + 192 - 0xC0 = v / 64 by omega]
  have bits : v / 64 * 64 + (v % 64 + 128 - 0x80) = v := by omega
  rw [decodeFrom_lead _ (by omega) (by omega) opens,
    decodeFrom_last _ (by omega) (by omega) (by omega), bits]

/-- The first continuation byte is in the range that the lead byte asks for: the character is no
surrogate and has no shorter form. -/
theorem lead_three (large : 0x800 ≤ v) (small : v < 0x10000) (valid : v.isValidChar) :
    ∃ low high, lead (v / 4096 % 16 + 224) = some (2, low, high, v / 4096) ∧
      low ≤ v / 64 % 64 + 128 ∧ v / 64 % 64 + 128 ≤ high := by
  have bits : v / 4096 % 16 + 224 - 0xE0 = v / 4096 := by omega
  by_cases first : v / 4096 = 0
  · exact ⟨0xA0, 0xBF, by simp [lead, first], by omega, by omega⟩
  · by_cases surrogates : v / 4096 = 0xD
    · unfold Nat.isValidChar at valid
      exact ⟨0x80, 0x9F, by simp [lead, surrogates], by omega, by omega⟩
    · refine ⟨0x80, 0xBF, ?_, by omega, by omega⟩
      rw [lead, if_neg (by omega), if_neg (by omega), if_neg (by omega), if_pos (by omega), bits]

theorem decodeFrom_three (large : 0x800 ≤ v) (small : v < 0x10000) (valid : v.isValidChar) :
    decodeFrom none (UInt8.ofNat (v / 4096 % 16 + 224) :: UInt8.ofNat (v / 64 % 64 + 128) ::
      UInt8.ofNat (v % 64 + 128) :: rest) = some (Char.ofNat v) :: decodeFrom none rest := by
  obtain ⟨low, high, opens, above, below⟩ := lead_three large small valid
  have bits : (v / 4096 * 64 + (v / 64 % 64 + 128 - 0x80)) * 64 + (v % 64 + 128 - 0x80) = v := by
    omega
  rw [decodeFrom_lead _ (by omega) (by omega) opens,
    decodeFrom_next _ (by omega) above below,
    decodeFrom_last _ (by omega) (by omega) (by omega), bits]

theorem lead_four (large : 0x10000 ≤ v) (valid : v.isValidChar) :
    ∃ low high, lead (v / 262144 % 8 + 240) = some (3, low, high, v / 262144) ∧
      low ≤ v / 4096 % 64 + 128 ∧ v / 4096 % 64 + 128 ≤ high := by
  have last : v < 0x110000 := by unfold Nat.isValidChar at valid; omega
  have bits : v / 262144 % 8 + 240 - 0xF0 = v / 262144 := by omega
  by_cases first : v / 262144 = 0
  · exact ⟨0x90, 0xBF, by simp [lead, first], by omega, by omega⟩
  · by_cases topmost : v / 262144 = 4
    · exact ⟨0x80, 0x8F, by simp [lead, topmost], by omega, by omega⟩
    · refine ⟨0x80, 0xBF, ?_, by omega, by omega⟩
      rw [lead, if_neg (by omega), if_neg (by omega), if_neg (by omega), if_neg (by omega),
        if_neg (by omega), if_pos (by omega), bits]

theorem decodeFrom_four (large : 0x10000 ≤ v) (valid : v.isValidChar) :
    decodeFrom none (UInt8.ofNat (v / 262144 % 8 + 240) :: UInt8.ofNat (v / 4096 % 64 + 128) ::
      UInt8.ofNat (v / 64 % 64 + 128) :: UInt8.ofNat (v % 64 + 128) :: rest) =
        some (Char.ofNat v) :: decodeFrom none rest := by
  obtain ⟨low, high, opens, above, below⟩ := lead_four large valid
  have last : v < 0x110000 := by unfold Nat.isValidChar at valid; omega
  have bits : ((v / 262144 * 64 + (v / 4096 % 64 + 128 - 0x80)) * 64 +
      (v / 64 % 64 + 128 - 0x80)) * 64 + (v % 64 + 128 - 0x80) = v := by omega
  rw [decodeFrom_lead _ (by omega) (by omega) opens,
    decodeFrom_next _ (by omega) above below,
    decodeFrom_next _ (by omega) (by omega) (by omega),
    decodeFrom_last _ (by omega) (by omega) (by omega), bits]

end Lengths

/-- The bytes of a character are read as this character. -/
theorem decodeFrom_utf8EncodeChar (c : Char) (rest : List UInt8) :
    decodeFrom none (String.utf8EncodeChar c ++ rest) = some c :: decodeFrom none rest := by
  have read : Char.ofNat c.val.toNat = c := Char.ofNat_toNat c
  have valid : c.val.toNat.isValidChar := c.valid
  conv => rhs; rw [← read]
  simp only [String.utf8EncodeChar]
  split
  · exact decodeFrom_single rest (by omega)
  · split
    · exact decodeFrom_two rest (by omega) (by omega)
    · split
      · exact decodeFrom_three rest (by omega) (by omega) valid
      · exact decodeFrom_four rest (by omega) valid

theorem decode_flatMap_utf8EncodeChar (s : List Char) :
    decode (s.flatMap String.utf8EncodeChar) = ofText s := by
  rw [decode]
  induction s with
  | nil => rfl
  | cons c rest ih =>
    rw [List.flatMap_cons, decodeFrom_utf8EncodeChar, ih, ofText, ofText, List.map_cons]

theorem text?_ofText (s : List Char) : text? (ofText s) = some s := by
  rw [text?, ofText]
  induction s with
  | nil => rfl
  | cons c rest ih => simp [ih]

end Glyph

theorem toList_loop (bytes : ByteArray) (i : Nat) (before : List UInt8) :
    ByteArray.toList.loop bytes i before = before.reverse ++ bytes.data.toList.drop i := by
  fun_induction ByteArray.toList.loop bytes i before with
  | case1 i before more ih =>
    have bounded : i < bytes.data.toList.length := by simpa using more
    rw [ih, List.drop_eq_getElem_cons bounded]
    simp [ByteArray.get!, more]
  | case2 i before done =>
    rw [List.drop_eq_nil_of_le (by simpa using Nat.le_of_not_lt done), List.append_nil]

theorem toUtf8_eq_flatMap (s : String) : toUtf8 s = s.toList.flatMap String.utf8EncodeChar := by
  have bytes : s.toUTF8 = s.toList.utf8Encode := by
    rw [String.toUTF8_eq_toByteArray, ← String.toByteArray_ofList, String.ofList_toList]
  rw [toUtf8, bytes, ByteArray.toList, toList_loop, List.utf8Encode, List.toList_data_toByteArray]
  rfl

/-- A text is read back from its bytes. -/
theorem ofUtf8?_toUtf8 (s : String) : ofUtf8? (toUtf8 s) = some s := by
  rw [ofUtf8?, toUtf8_eq_flatMap, Glyph.decode_flatMap_utf8EncodeChar, Glyph.text?_ofText,
    Option.map_some, String.ofList_toList]

end InboxAudit.Text

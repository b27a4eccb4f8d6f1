import InboxAudit.Json.Printer
import InboxAudit.Json.Reader

/-!
# Strings read back

Every character is read back from its form inside a string, escaped or not
(`stringParts_escapeChar`), and so is every text (`stringText_quote`).
-/

namespace InboxAudit.Json
set_option autoImplicit false

open InboxAudit.Text (Glyph)

theorem joinParts_chars (s : List Char) : joinParts (s.map .char) = some s := by
  induction s with
  | nil => rfl
  | cons c s ih => rw [List.map_cons, joinParts, ih, Option.map_some]

theorem hexDigit?_hexChar : ∀ n < 16, hexDigit? (some (hexChar n)) = some n := by
  decide

/-- The numbered escape of a control character names it. -/
theorem hex4?_hexChar {n : Nat} (small : n < 0x20) :
    hex4? (some '0') (some '0') (some (hexChar (n / 16))) (some (hexChar (n % 16))) = some n := by
  have zero : hexDigit? (some '0') = some 0 := by decide
  have high : hexDigit? (some (hexChar (n / 16))) = some (n / 16) :=
    hexDigit?_hexChar _ (by omega)
  have low : hexDigit? (some (hexChar (n % 16))) = some (n % 16) :=
    hexDigit?_hexChar _ (by omega)
  simp only [hex4?, zero, high, low, Option.bind_eq_bind, Option.bind_some, Option.pure_def]
  congr 1
  omega

/-- A character is read back from its form inside a string. -/
theorem stringParts_escapeChar (c : Char) (rest : List Glyph) :
    stringParts (Glyph.ofText (escapeChar c) ++ rest) =
      (stringParts rest).map fun (parts, rest) => (.char c :: parts, rest) := by
  by_cases named : c ∈ ['"', '\\', '\n', '\r', '\t', '\x08', '\x0c']
  · simp only [List.mem_cons, List.not_mem_nil, or_false] at named
    rcases named with rfl | rfl | rfl | rfl | rfl | rfl | rfl <;> rfl
  · simp only [List.mem_cons, List.not_mem_nil, or_false, not_or] at named
    by_cases control : c.toNat < 0x20
    · have character : Part.ofUnit c.toNat = .char c := by
        rw [Part.ofUnit, if_neg (by omega), Char.ofNat_toNat]
      simp [escapeChar, named, control, Glyph.ofText, stringParts, hex4?_hexChar control, character]
    · simp [escapeChar, named, control, Glyph.ofText, stringParts]

theorem stringText_quote (text : List Char) (rest : List Glyph) :
    stringText (Glyph.ofText (text.flatMap escapeChar) ++ some '"' :: rest) =
      some (some (String.ofList text), rest) := by
  have parts : stringParts (Glyph.ofText (text.flatMap escapeChar) ++ some '"' :: rest) =
      some (text.map .char, rest) := by
    induction text with
    | nil => rfl
    | cons c more ih =>
      have split : Glyph.ofText ((c :: more).flatMap escapeChar) =
          Glyph.ofText (escapeChar c) ++ Glyph.ofText (more.flatMap escapeChar) := by
        simp [Glyph.ofText]
      rw [split, List.append_assoc, stringParts_escapeChar, ih]
      rfl
  simp [stringText, parts, joinParts_chars]

end InboxAudit.Json

/-!
# UTF-8

Bytes as characters. A `Glyph` is a character or `none`, which stands for a longest run of bytes
that begins a character and never completes it. Strict reading needs every glyph to be a
character; lenient reading puts U+FFFD in the place of the others.
-/

namespace InboxAudit.Text
set_option autoImplicit false

/-- One decoded character, or the place of undecodable bytes. -/
abbrev Glyph := Option Char

namespace Glyph

/-- How many continuation bytes a lead byte asks for, the range its first continuation byte
must lie in (surrogates, overlong forms and values past U+10FFFF are shut out here), and the
bits of the character that the lead byte holds. -/
def lead (b : Nat) : Option (Nat × Nat × Nat × Nat) :=
  if 0xC2 ≤ b ∧ b ≤ 0xDF then some (1, 0x80, 0xBF, b - 0xC0)
  else if b = 0xE0 then some (2, 0xA0, 0xBF, 0)
  else if b = 0xED then some (2, 0x80, 0x9F, 0xD)
  else if 0xE1 ≤ b ∧ b ≤ 0xEF then some (2, 0x80, 0xBF, b - 0xE0)
  else if b = 0xF0 then some (3, 0x90, 0xBF, 0)
  else if 0xF1 ≤ b ∧ b ≤ 0xF3 then some (3, 0x80, 0xBF, b - 0xF0)
  else if b = 0xF4 then some (3, 0x80, 0x8F, 4)
  else none

/-- A character under way: the bits so far, the continuation bytes still missing, and the range
of the next one. -/
structure Pending where
  bits : Nat
  missing : Nat
  low : Nat
  high : Nat

/-- The glyphs of some bytes, `pending` being the character under way. -/
def decodeFrom (pending : Option Pending) : List UInt8 → List Glyph
  | [] => if pending.isSome then [none] else []
  | byte :: rest =>
    let b := byte.toNat
    let fresh : Option Glyph × Option Pending :=
      if b < 0x80 then (some (some (Char.ofNat b)), none)
      else
        match lead b with
        | none => (some none, none)
        | some (missing, low, high, bits) => (none, some ⟨bits, missing, low, high⟩)
    match pending with
    | none => fresh.1.toList ++ decodeFrom fresh.2 rest
    | some p =>
      if p.low ≤ b ∧ b ≤ p.high then
        let bits := p.bits * 64 + (b - 0x80)
        if p.missing ≤ 1 then some (Char.ofNat bits) :: decodeFrom none rest
        else decodeFrom (some ⟨bits, p.missing - 1, 0x80, 0xBF⟩) rest
      else none :: (fresh.1.toList ++ decodeFrom fresh.2 rest)

/-- The glyphs of some bytes. -/
def decode (bytes : List UInt8) : List Glyph :=
  decodeFrom none bytes

/-- The glyphs of a text, all of them characters. -/
def ofText (s : List Char) : List Glyph :=
  s.map some

/-- The text of some glyphs, if all of them are characters. -/
def text? (glyphs : List Glyph) : Option (List Char) :=
  glyphs.mapM id

/-- The text of some glyphs, with U+FFFD for undecodable bytes. -/
def lenientText (glyphs : List Glyph) : List Char :=
  glyphs.map (·.getD '\uFFFD')

end Glyph

/-- The text of some bytes, if they are UTF-8. -/
def ofUtf8? (bytes : List UInt8) : Option String :=
  (Glyph.text? (Glyph.decode bytes)).map String.ofList

/-- The text of some bytes, with U+FFFD for each undecodable run. -/
def ofUtf8 (bytes : List UInt8) : String :=
  String.ofList (Glyph.lenientText (Glyph.decode bytes))

/-- The UTF-8 bytes of a text. -/
def toUtf8 (s : String) : List UInt8 :=
  s.toUTF8.toList

end InboxAudit.Text

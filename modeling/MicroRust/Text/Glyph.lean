/-! Source text as it stands in a file: characters, and the bytes that belong to no character.

A file may hold bytes that are not UTF-8. Decoding keeps each such byte as a unit of its own, so a
text can be counted in columns and still be written back byte for byte. -/

namespace MicroRust.Text

inductive Glyph where
  | char (c : Char)
  | stray (b : UInt8)
deriving DecidableEq, Repr, Inhabited

namespace Glyph

def toChar : Glyph → Char
  | .char c => c
  | .stray _ => '\uFFFD'

def bytes : Glyph → List UInt8
  | .char c => (String.singleton c).toUTF8.toList
  | .stray b => [b]

end Glyph

def isTail (b : UInt8) : Bool := 0x80 ≤ b && b ≤ 0xBF

def tailBits (b : UInt8) : Nat := b.toNat - 0x80

def pair? (a : UInt8) : List UInt8 → Option Char
  | b :: _ =>
    if 0xC2 ≤ a && a ≤ 0xDF && isTail b then
      some (Char.ofNat ((a.toNat - 0xC0) * 64 + tailBits b))
    else none
  | [] => none

/-- The character of a three byte sequence that begins with `a`. Overlong forms and surrogates are
no characters. -/
def triple? (a : UInt8) : List UInt8 → Option Char
  | b :: c :: _ =>
    if 0xE0 ≤ a && a ≤ 0xEF && isTail b && isTail c && (a != 0xE0 || 0xA0 ≤ b) &&
        (a != 0xED || b ≤ 0x9F) then
      some (Char.ofNat (((a.toNat - 0xE0) * 64 + tailBits b) * 64 + tailBits c))
    else none
  | _ => none

def quadruple? (a : UInt8) : List UInt8 → Option Char
  | b :: c :: d :: _ =>
    if 0xF0 ≤ a && a ≤ 0xF4 && isTail b && isTail c && isTail d && (a != 0xF0 || 0x90 ≤ b) &&
        (a != 0xF4 || b ≤ 0x8F) then
      some (Char.ofNat
        ((((a.toNat - 0xF0) * 64 + tailBits b) * 64 + tailBits c) * 64 + tailBits d))
    else none
  | _ => none

def firstGlyph (a : UInt8) (rest : List UInt8) : Glyph × Nat :=
  if a < 0x80 then (.char (Char.ofNat a.toNat), 0)
  else match pair? a rest with
    | some c => (.char c, 1)
    | none => match triple? a rest with
      | some c => (.char c, 2)
      | none => match quadruple? a rest with
        | some c => (.char c, 3)
        | none => (.stray a, 0)

/-- The units of a text whose first `n` bytes belong to a unit already read. -/
def decodeAfter : Nat → List UInt8 → List Glyph
  | _, [] => []
  | n + 1, _ :: rest => decodeAfter n rest
  | 0, a :: rest => (firstGlyph a rest).1 :: decodeAfter (firstGlyph a rest).2 rest

def decode (bytes : List UInt8) : List Glyph := decodeAfter 0 bytes

def encode (text : List Glyph) : List UInt8 := text.flatMap Glyph.bytes

def glyphs (s : String) : List Glyph := s.toList.map .char

def characters (bytes : List UInt8) : List Char := (decode bytes).map Glyph.toChar

end MicroRust.Text

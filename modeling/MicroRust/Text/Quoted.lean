import MicroRust.Text.PrintableRanges

/-! Text between quotes, as messages show it.

A printable character stands for itself. The quote, the backslash and the common control characters
have short escapes; every other character is written by its number. -/

namespace MicroRust.Text

def hexDigits (width n : Nat) : List Char :=
  let digits := Nat.toDigits 16 n
  List.replicate (width - digits.length) '0' ++ digits

def isPrintable (c : Char) : Bool :=
  if c.toNat < 0x7F then 0x20 ≤ c.toNat else printableRanges.has c

def numericEscape (c : Char) : List Char :=
  if c.toNat < 0x20 || c.toNat = 0x7F then '\\' :: 'x' :: hexDigits 2 c.toNat
  else if c.toNat < 0x10000 then '\\' :: 'u' :: hexDigits 4 c.toNat
  else '\\' :: 'U' :: hexDigits 8 c.toNat

def escapeChar (quote c : Char) : List Char :=
  if c = quote || c = '\\' then ['\\', c]
  else if isPrintable c then [c]
  else match c with
    | '\x07' => ['\\', 'a']
    | '\x08' => ['\\', 'b']
    | '\x0C' => ['\\', 'f']
    | '\n' => ['\\', 'n']
    | '\r' => ['\\', 'r']
    | '\t' => ['\\', 't']
    | '\x0B' => ['\\', 'v']
    | _ => numericEscape c

def quoted (s : String) : String :=
  String.ofList ('"' :: s.toList.flatMap (escapeChar '"') ++ ['"'])

def quotedChar (c : Char) : String :=
  String.ofList ('\'' :: escapeChar '\'' c ++ ['\''])

/-- The character with a number. The number is taken as a signed word of 32 bits, and one that no
character has gives the replacement character. -/
def charOfCode (n : Int) : Char :=
  let code := n.bmod 0x100000000
  if 0 ≤ code && code.toNat.isValidChar then Char.ofNat code.toNat else '\uFFFD'

end MicroRust.Text

import MicroRust.Number.Binary64

/-! Decimal numerals with a fraction or an exponent, and whether a number is near them. -/

namespace MicroRust.Toml

structure Numeral where
  whole : List Char
  fraction : List Char := []
  exponent : Int := 0
deriving DecidableEq, Repr

def numberOfDigits (digits : List Char) : Nat :=
  digits.foldl (fun n c => n * 10 + (c.toNat - 48)) 0

/-- The least size of an exponent that no further digit makes greater. -/
def exponentLimit : Nat := 10000

def exponentOfDigits (digits : List Char) : Nat :=
  digits.foldl (fun n c => if n < exponentLimit then n * 10 + (c.toNat - 48) else n) 0

def Numeral.nearest? (n : Numeral) : Option Binary64 :=
  let significand := numberOfDigits (n.whole ++ n.fraction)
  let exponent := n.exponent - n.fraction.length
  if significand = 0 then some Binary64.zero
  else if 0 ≤ exponent then Binary64.ofQuotient? (significand * Nat.pow 10 exponent.toNat) 1
  else Binary64.ofQuotient? significand (Nat.pow 10 (-exponent).toNat)

end MicroRust.Toml

/-! Non-negative numbers of the binary format with 53 bits of precision.

A number is held as significand and exponent, and every operation is exact arithmetic on natural
numbers: reading rounds a quotient to the nearest number of the format, and the end of two equally
near ones that is even. -/

namespace MicroRust

structure Binary64 where
  significand : Nat
  exponent : Int
deriving DecidableEq, Repr, Inhabited

namespace Binary64

def precision : Nat := 53

def leastExponent : Int := -1074

def greatestExponent : Int := 971

def zero : Binary64 := ⟨0, leastExponent⟩

/-- `num / den` as a natural number, to the nearest, and to the even one of two. -/
def roundQuotient (num den : Nat) : Nat :=
  let q := num / den
  let r := num % den
  if den < 2 * r || (2 * r = den && q % 2 = 1) then q + 1 else q

def scale (num den : Nat) (e : Int) : Nat × Nat :=
  if 0 ≤ e then (num, den * Nat.pow 2 e.toNat) else (num * Nat.pow 2 (-e).toNat, den)

def binaryOrder (num den : Nat) : Int :=
  let e : Int := (Nat.log2 num : Int) - Nat.log2 den
  let (n, d) := scale num den e
  if d ≤ n then e else e - 1

def ofQuotient? (num den : Nat) : Option Binary64 :=
  if num = 0 then some zero
  else
    let e := max leastExponent (binaryOrder num den - (precision - 1 : Nat))
    let (n, d) := scale num den e
    let m := roundQuotient n d
    let (m, e) := if m = Nat.pow 2 precision then (Nat.pow 2 (precision - 1), e + 1) else (m, e)
    if greatestExponent < e then none else some ⟨m, e⟩

end Binary64

/-- A decimal numeral `0.d₁d₂… · 10 ^ (order + 1)`: its digits, the first of which stands for
multiples of `10 ^ order`. -/
structure Decimal where
  digits : List Char
  order : Int
deriving DecidableEq, Repr

namespace Binary64

def digitCount (n : Nat) : Nat := (Nat.toDigits 10 n).length

def decimalOrder (num den : Nat) : Int :=
  let e : Int := (digitCount num : Int) - digitCount den
  let reached :=
    if 0 ≤ e then den * Nat.pow 10 e.toNat ≤ num else den ≤ num * Nat.pow 10 (-e).toNat
  if reached then e else e - 1

/-- The grid point nearest to `v` among the two around it that round back to the number, on the grid
of multiples of `10 ^ (-s)`; the even one if both are equally near. -/
def gridPoint? (v : Binary64) (s : Int) : Option Nat :=
  let e := v.exponent - 2
  let p := (if 0 ≤ e then Nat.pow 2 e.toNat else 1) * (if 0 ≤ s then Nat.pow 10 s.toNat else 1)
  let d := (if 0 ≤ e then 1 else Nat.pow 2 (-e).toNat) *
    (if 0 ≤ s then 1 else Nat.pow 10 (-s).toNat)
  let value := 4 * v.significand * p
  let isLeast := v.significand = Nat.pow 2 (precision - 1) && leastExponent < v.exponent
  let below := if isLeast then 1 else 2
  let low := (4 * v.significand - below) * p
  let high := (4 * v.significand + 2) * p
  let inside (c : Nat) : Bool :=
    if v.significand % 2 = 0 then low ≤ c * d && c * d ≤ high else low < c * d && c * d < high
  let floor := value / d
  let r := value % d
  let up := d < 2 * r || (2 * r = d && floor % 2 = 1)
  let first := if up then floor + 1 else floor
  let second := if up then floor else floor + 1
  if inside first then some first
  else if inside second then some second
  else none

def decimalOf (c : Nat) (s : Int) : Decimal :=
  let digits := Nat.toDigits 10 c
  ⟨(digits.reverse.dropWhile (· = '0')).reverse, (digits.length : Int) - 1 - s⟩

/-- The shortest decimal that reads back as the number, and the nearest of those. Seventeen digits
are always enough. -/
def shortest (v : Binary64) : Decimal :=
  let (num, den) := scale v.significand 1 (-v.exponent)
  let order := decimalOrder num den
  let found := (List.range 17).findSome? fun (k : Nat) =>
    let s := (k : Int) - order
    (gridPoint? v s).map fun c => decimalOf c s
  found.getD ⟨['0'], 0⟩

end Binary64

namespace Decimal

def plainOrders : Int × Int := (-4, 5)

def scientific (d : Decimal) : List Char :=
  let mantissa := match d.digits with
    | c :: rest@(_ :: _) => c :: '.' :: rest
    | digits => digits
  let exponent := Nat.toDigits 10 d.order.natAbs
  mantissa ++ ['e', if d.order < 0 then '-' else '+'] ++
    List.replicate (2 - exponent.length) '0' ++ exponent

def positional (d : Decimal) : List Char :=
  if d.order < 0 then
    ['0', '.'] ++ List.replicate (-d.order - 1).toNat '0' ++ d.digits
  else
    let whole := d.order.toNat + 1
    if d.digits.length ≤ whole then d.digits ++ List.replicate (whole - d.digits.length) '0'
    else d.digits.take whole ++ '.' :: d.digits.drop whole

end Decimal

def Binary64.text (v : Binary64) : String :=
  if v.significand = 0 then "0"
  else
    let d := v.shortest
    String.ofList <|
      if d.order < Decimal.plainOrders.1 || Decimal.plainOrders.2 < d.order then d.scientific
      else d.positional

end MicroRust

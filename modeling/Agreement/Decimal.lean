/-!
# Decimals

A decimal numeral, the binary floating point number that it stands for, and the shortest numeral
that lies nearest to that number. Binary numbers have 53 binary places and exponents from -1074 on.
-/

namespace Agreement

/-- The numeral `± digits × 10 ^ exponent`. -/
structure Decimal where
  negative : Bool
  digits : Nat
  exponent : Int
deriving Repr, DecidableEq

/-- The number `mantissa × 2 ^ exponent`. -/
structure Binary where
  mantissa : Nat
  exponent : Int
deriving Repr, DecidableEq

/-- The whole number nearest to `num / den`; a half goes to the even neighbour. -/
def roundHalfEven (num den : Nat) : Nat :=
  let q := num / den
  let twice := 2 * (num % den)
  if twice < den || (twice == den && q % 2 == 0) then q else q + 1

namespace Binary

def leastExponent : Int := -1074

/-- The quotient of `num / den` by `2 ^ exponent`, as a pair of numerator and denominator. -/
def scaled (num den : Nat) (exponent : Int) : Nat × Nat :=
  (num * Nat.pow 2 (-exponent).toNat, den * Nat.pow 2 exponent.toNat)

/-- The binary number nearest to `num / den`, where `den` is not zero. -/
def nearest (num den : Nat) : Binary :=
  if num = 0 then ⟨0, leastExponent⟩
  else
    let guess : Int := (num.log2 : Int) - den.log2 - 52
    let (n, d) := scaled num den guess
    let exponent := max (if n / d < Nat.pow 2 52 then guess - 1 else guess) leastExponent
    let (n, d) := scaled num den exponent
    let mantissa := roundHalfEven n d
    if mantissa = Nat.pow 2 53 then ⟨Nat.pow 2 52, exponent + 1⟩ else ⟨mantissa, exponent⟩

/-- The size of a binary number as a fraction. -/
def fraction (x : Binary) : Nat × Nat :=
  (x.mantissa * Nat.pow 2 x.exponent.toNat, Nat.pow 2 (-x.exponent).toNat)

/-- The binary number nearest to a power of ten. -/
def tenTo (exponent : Nat) : Binary :=
  nearest (Nat.pow 10 exponent) 1

/-- The binary number nearest to a product. -/
def times (x y : Binary) : Binary :=
  nearest (x.fraction.1 * y.fraction.1) (x.fraction.2 * y.fraction.2)

/-- The binary number nearest to a quotient, where `y` is not zero. -/
def dividedBy (x y : Binary) : Binary :=
  nearest (x.fraction.1 * y.fraction.2) (x.fraction.2 * y.fraction.1)

/-- The greatest power of ten that is a binary number. -/
def greatestPower : Nat := 308

/-- A binary number divided by a power of ten, in several steps if the power is too large for one. -/
def dividedByTenTo (x : Binary) (exponent : Nat) : Binary :=
  if x.mantissa = 0 ∨ exponent ≤ greatestPower then x.dividedBy (tenTo (min exponent greatestPower))
  else (x.dividedBy (tenTo greatestPower)).dividedByTenTo (exponent - greatestPower)
termination_by exponent
decreasing_by
  simp only [greatestPower] at *
  omega

end Binary

namespace Decimal

/-- The numeral without the digits that 64 bits cannot hold. -/
def leading (x : Decimal) : Decimal :=
  if x.digits < Nat.pow 2 64 then x
  else leading { x with digits := x.digits / 10, exponent := x.exponent + 1 }
termination_by x.digits
decreasing_by
  have hpos : 0 < Nat.pow 2 64 := Nat.two_pow_pos 64
  omega

/-- The size of the binary number that a numeral stands for. The digits are rounded to a binary
number, and once more after the multiplication or division by the power of ten. -/
def value (x : Decimal) : Binary :=
  let x := x.leading
  let whole := Binary.nearest x.digits 1
  if whole.mantissa = 0 then whole
  else if x.exponent ≥ 0 then whole.times (Binary.tenTo x.exponent.toNat)
  else whole.dividedByTenTo (-x.exponent).toNat

/-- The exponent of the first digit of `num / den`, which is neither zero nor below
`10 ^ -fuel`. -/
def leadingExponent (num den : Nat) : Nat → Int
  | 0 => 0
  | fuel + 1 =>
      if den ≤ num then ((num / den).repr.length : Int) - 1
      else leadingExponent (num * 10) den fuel - 1

/-- The point nearest to `num / den` among the two neighbours on the grid of `10 ^ exponent` that
lie between `low / den` and `high / den`; the ends count if `closed`, and of two points equally near
the even one is taken. -/
def onGrid? (low num high den : Nat) (closed : Bool) (exponent : Int) : Option Nat :=
  let up := Nat.pow 10 (-exponent).toNat
  let unit := den * Nat.pow 10 exponent.toNat
  let below := num * up / unit
  let inside (n : Nat) : Bool :=
    if closed then low * up ≤ n * unit && n * unit ≤ high * up
    else low * up < n * unit && n * unit < high * up
  let nearest := roundHalfEven (num * up) unit
  match inside below, inside (below + 1) with
  | true, true => some nearest
  | true, false => some below
  | false, true => some (below + 1)
  | false, false => none

/-- The numeral with the fewest digits that reads back as a binary number other than zero. -/
def shortest (negative : Bool) (x : Binary) : Decimal :=
  let up := Nat.pow 2 (x.exponent - 2).toNat
  let den := Nat.pow 2 (2 - x.exponent).toNat
  let num := 4 * x.mantissa * up
  let gapBelow := if x.mantissa = Nat.pow 2 52 && x.exponent > Binary.leastExponent then 1 else 2
  let low := (4 * x.mantissa - gapBelow) * up
  let high := (4 * x.mantissa + 2) * up
  let top := leadingExponent num den 400
  let hit := (List.range 17).findSome? fun (n : Nat) =>
    (onGrid? low num high den (x.mantissa % 2 == 0) (top - n)).map fun digits => (digits, top - n)
  match hit with
  | some (digits, exponent) =>
      if digits % 10 == 0 then ⟨negative, digits / 10, exponent + 1⟩
      else ⟨negative, digits, exponent⟩
  | none => ⟨negative, 0, 0⟩

/-- The exponent of the first digit. -/
def top (x : Decimal) : Int :=
  (x.digits.repr.length : Int) - 1 + x.exponent

/-- The digits of a numeral without an exponent and with at least one decimal place. -/
def positional (x : Decimal) : String :=
  let digits := x.digits.repr
  let places := (-x.exponent).toNat
  if x.exponent ≥ 0 then digits ++ "".pushn '0' x.exponent.toNat ++ ".0"
  else if places < digits.length then
    String.ofList (digits.toList.take (digits.length - places)) ++ "." ++
      String.ofList (digits.toList.drop (digits.length - places))
  else "0." ++ "".pushn '0' (places - digits.length) ++ digits

/-- The digits of a numeral with the point after the first one, and an exponent with its sign. -/
def scientific (x : Decimal) : String :=
  let mantissa := match x.digits.repr.toList with
    | first :: second :: rest => String.ofList (first :: '.' :: second :: rest)
    | digits => String.ofList digits
  mantissa ++ "e" ++ (if x.top < 0 then "-" else "+") ++ x.top.natAbs.repr

/-- A numeral in full: without an exponent from `10 ^ -5` to below `10 ^ 16`, and for zero. -/
def written (x : Decimal) : String :=
  (if x.negative then "-" else "") ++
    if x.digits = 0 ∨ (-5 ≤ x.top ∧ x.top < 16) then x.positional else x.scientific

/-- The text of the binary number that a numeral stands for. -/
def text (x : Decimal) : String :=
  if x.value.mantissa = 0 then written ⟨x.negative, 0, 0⟩
  else written (shortest x.negative x.value)

end Decimal

end Agreement

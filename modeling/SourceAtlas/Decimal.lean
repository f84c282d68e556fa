import SourceAtlas.Text.Basic

/-!
Decimal fractions and the binary fractions that stand for them. A number with a fraction is kept as it was
written; where it is measured or printed it is first taken to the nearest binary fraction of 53 bits, a tie
going to the even neighbour.
-/

namespace SourceAtlas

/-- The number `digits * 10 ^ exponent`, or its negative. -/
structure Decimal where
  negative : Bool
  digits : Nat
  exponent : Int
deriving DecidableEq, Repr

/-- A binary fraction `mantissa * 2 ^ exponent` of at most 53 bits, or what lies outside their range. -/
inductive Binary where
  | finite (negative : Bool) (mantissa : Nat) (exponent : Int)
  | infinite (negative : Bool)
  | undefined
deriving DecidableEq, Repr

/-- The whole number nearest to a quotient; a half goes to the even neighbour. -/
def roundQuotient (numerator denominator : Nat) : Nat :=
  let q := numerator / denominator
  let twice := 2 * (numerator % denominator)
  if denominator < twice || (twice = denominator && q % 2 = 1) then q + 1 else q

namespace Binary

/-- `numerator * 2 ^ shift / denominator` as a pair without a negative power. -/
def shifted (numerator denominator : Nat) (shift : Int) : Nat × Nat :=
  if 0 ≤ shift then (numerator <<< shift.toNat, denominator)
  else (numerator, denominator <<< (-shift).toNat)

/-- The binary fraction nearest to a quotient. The exponent is chosen so that the mantissa has 53 bits, or
fewer at the lower end of the range. -/
def nearest (negative : Bool) (numerator denominator : Nat) : Binary :=
  if numerator = 0 then .finite negative 0 0
  else
    let low : Int := numerator.log2 - denominator.log2 - 53
    let (n, d) := shifted numerator denominator (-low)
    let exponent := max (-1074) (if d <<< 53 ≤ n then low + 1 else low)
    let (n, d) := shifted numerator denominator (-exponent)
    let mantissa := roundQuotient n d
    let (mantissa, exponent) :=
      if mantissa = 1 <<< 53 then (1 <<< 52, exponent + 1) else (mantissa, exponent)
    if 971 < exponent then .infinite negative else .finite negative mantissa exponent

/-- The binary fraction of a decimal one. Powers far outside the range are not computed. -/
def ofDecimal (d : Decimal) : Binary :=
  if d.digits = 0 then .finite d.negative 0 0
  else if 400 < d.exponent then .infinite d.negative
  else if d.exponent < -400 - (d.digits.log2 : Int) then .finite d.negative 0 0
  else if 0 ≤ d.exponent then nearest d.negative (d.digits * Nat.pow 10 d.exponent.toNat) 1
  else nearest d.negative d.digits (Nat.pow 10 (-d.exponent).toNat)

/-- The binary fraction of a whole number. -/
def ofInt (n : Int) : Binary := nearest (n < 0) n.natAbs 1

/-- The number with one place after the point. -/
def toTenths : Binary → Text
  | .undefined => "nan"
  | .infinite negative => if negative then "-inf" else "inf"
  | .finite negative mantissa exponent =>
    let (n, d) := shifted (10 * mantissa) 1 exponent
    let tenths := roundQuotient n d
    (if negative then ("-" : Text) else []) ++ Text.ofNat (tenths / 10) ++ "." ++ Text.ofNat (tenths % 10)

/-- Is it zero, of either sign? -/
def isZero : Binary → Bool
  | .finite _ mantissa _ => mantissa = 0
  | _ => false

end Binary

end SourceAtlas

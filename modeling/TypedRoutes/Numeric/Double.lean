/-!
The finite numbers of the IEEE 754 binary64 format in exact arithmetic: rounding of a quotient to
the nearest such number, multiplication and division.
-/

set_option autoImplicit false
set_option relaxedAutoImplicit false

namespace TypedRoutes.Numeric

/-- A finite binary64 number: `mantissa * 2 ^ exponent`, negated if `negative`. -/
structure Double where
  negative : Bool
  mantissa : Nat
  exponent : Int
  deriving DecidableEq, Repr

namespace Double

def leastExponent : Int := -1074

def greatestExponent : Int := 971

/-- The least mantissa of a number whose exponent is not the least one: `2 ^ 52`. -/
def leastMantissa : Nat := Nat.pow 2 52

def zero (negative : Bool) : Double := ⟨negative, 0, leastExponent⟩

/-- The quotient of two numbers, rounded to the nearest integer, a half to the even one. -/
def roundQuotient (num den : Nat) : Nat :=
  let down := num / den
  let rest := num % den
  if 2 * rest < den then down
  else if den < 2 * rest then down + 1
  else if down % 2 = 0 then down else down + 1

/-- Numerator and denominator of `num / den` divided by `2 ^ exponent`. -/
def scaled (num den : Nat) (exponent : Int) : Nat × Nat :=
  if 0 ≤ exponent then (num, den * Nat.pow 2 exponent.toNat)
  else (num * Nat.pow 2 (-exponent).toNat, den)

/-- The finite number nearest to a quotient; none if the quotient is too large. -/
def ofRatio? (negative : Bool) (num den : Nat) : Option Double :=
  if num = 0 then some (zero negative)
  else
    let guess : Int := (Nat.log2 num : Int) - (Nat.log2 den : Int) - 52
    let (n, d) := scaled num den guess
    let exponent := max (if n / d < leastMantissa then guess - 1 else guess) leastExponent
    let (n, d) := scaled num den exponent
    let mantissa := roundQuotient n d
    let (mantissa, exponent) :=
      if mantissa = 2 * leastMantissa then (leastMantissa, exponent + 1) else (mantissa, exponent)
    if greatestExponent < exponent then none else some ⟨negative, mantissa, exponent⟩

/-- The value without its sign, as numerator and denominator. -/
def ratio (x : Double) : Nat × Nat :=
  if 0 ≤ x.exponent then (x.mantissa * Nat.pow 2 x.exponent.toNat, 1)
  else (x.mantissa, Nat.pow 2 (-x.exponent).toNat)

/-- The rounded product; none if it is too large. -/
def mul? (x y : Double) : Option Double :=
  ofRatio? (x.negative != y.negative) (x.ratio.1 * y.ratio.1) (x.ratio.2 * y.ratio.2)

/-- The rounded quotient by a number other than zero; none if it is too large. -/
def div? (x y : Double) : Option Double :=
  ofRatio? (x.negative != y.negative) (x.ratio.1 * y.ratio.2) (x.ratio.2 * y.ratio.1)

def neg (x : Double) : Double := { x with negative := !x.negative }

/-- The number nearest to `digits * 10 ^ exponent`; none if that is too large. -/
def ofDecimal? (negative : Bool) (digits : Nat) (exponent : Int) : Option Double :=
  if digits = 0 then some (zero negative)
  else if 400 < exponent then none
  else if exponent < -400 - (Nat.log2 digits : Int) then some (zero negative)
  else if 0 ≤ exponent then ofRatio? negative (digits * Nat.pow 10 exponent.toNat) 1
  else ofRatio? negative digits (Nat.pow 10 (-exponent).toNat)

end Double

end TypedRoutes.Numeric

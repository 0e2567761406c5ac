import TypedRoutes.Numeric.Double

/-!
The shortest decimal that reads back as a given binary64 number: the fewest digits, and of these
the decimal nearest to the number.
-/

set_option autoImplicit false
set_option relaxedAutoImplicit false

namespace TypedRoutes.Numeric

structure Decimal where
  digits : Nat
  exponent : Int
  deriving DecidableEq, Repr

def stripZeros : Nat → Decimal → Decimal
  | 0, x => x
  | fuel + 1, x =>
    if x.digits ≠ 0 ∧ x.digits % 10 = 0 then stripZeros fuel ⟨x.digits / 10, x.exponent + 1⟩
    else x

namespace Double

/--
The numbers that round to `x` lie between `low` and `high`, in quarters of `2 ^ x.exponent`; below
a power of two the lower half of the gap is half as wide.
-/
def quarters (x : Double) : Nat × Nat × Nat :=
  let low := if x.mantissa = leastMantissa ∧ leastExponent < x.exponent then 1 else 2
  (4 * x.mantissa - low, 4 * x.mantissa, 4 * x.mantissa + 2)

def powerOfTwo (exponent : Int) : Nat × Nat :=
  if 0 ≤ exponent then (Nat.pow 2 exponent.toNat, 1) else (1, Nat.pow 2 (-exponent).toNat)

def powerOfTen (exponent : Int) : Nat × Nat :=
  if 0 ≤ exponent then (Nat.pow 10 exponent.toNat, 1) else (1, Nat.pow 10 (-exponent).toNat)

/-- Whether `10 ^ exponent` is at most the value of `x`. -/
def reachesTen (x : Double) (exponent : Int) : Bool :=
  (powerOfTen exponent).1 * x.ratio.2 ≤ x.ratio.1 * (powerOfTen exponent).2

/-- The exponent of the leading decimal digit of a number other than zero. -/
def decimalMagnitude (x : Double) : Int :=
  let guess := ((Nat.log2 x.mantissa : Int) + x.exponent) * 30103 / 100000
  if x.reachesTen (guess + 1) then guess + 1
  else if x.reachesTen guess then guess
  else guess - 1

/-- The multiple of `10 ^ exponent` that reads back as `x` and is nearest to it, if one does. -/
def onGrid? (x : Double) (exponent : Int) : Option Decimal :=
  let (low, value, high) := x.quarters
  let (a, b) := powerOfTwo (x.exponent - 2)
  let (p, q) := powerOfTen exponent
  let unit := p * b
  let value := value * a * q
  let inside (n : Nat) : Bool :=
    n ≠ 0 && (if x.mantissa % 2 = 0 then low * a * q ≤ n * unit && n * unit ≤ high * a * q
      else low * a * q < n * unit && n * unit < high * a * q)
  let down := value / unit
  let below := value - down * unit
  let above := (down + 1) * unit - value
  match inside down, inside (down + 1) with
  | true, true =>
    if below < above ∨ (below = above ∧ down % 2 = 0) then some ⟨down, exponent⟩
    else some ⟨down + 1, exponent⟩
  | true, false => some ⟨down, exponent⟩
  | false, true => some ⟨down + 1, exponent⟩
  | false, false => none

/-- The shortest decimal that reads back as a number other than zero, without trailing zeros. -/
def shortest (x : Double) : Decimal :=
  let magnitude := x.decimalMagnitude
  match (List.range 17).findSome? fun (n : Nat) => x.onGrid? (magnitude - (n : Int)) with
  | some decimal => stripZeros 20 decimal
  | none => ⟨0, 0⟩

end Double

def zeros (n : Nat) : String := String.ofList (List.replicate n '0')

/--
The text of a decimal in JSON: positional from `10 ^ -5` up to `10 ^ 16` with at least one place
after the point, else with an exponent that has a sign and no padding.
-/
def Decimal.text (x : Decimal) : String :=
  let digits := (toString x.digits).toList
  let count : Int := digits.length
  let point := count + x.exponent
  if 0 ≤ x.exponent ∧ point ≤ 16 then
    String.ofList digits ++ zeros x.exponent.toNat ++ ".0"
  else if 0 < point ∧ point ≤ 16 then
    String.ofList (digits.take point.toNat) ++ "." ++ String.ofList (digits.drop point.toNat)
  else if -5 < point ∧ point ≤ 0 then
    "0." ++ zeros (-point).toNat ++ String.ofList digits
  else
    let fraction := if digits.length = 1 then "" else "." ++ String.ofList (digits.drop 1)
    let sign := if 0 < point then "+" else ""
    String.ofList (digits.take 1) ++ fraction ++ "e" ++ sign ++ toString (point - 1)

def Double.text (x : Double) : String :=
  let sign := if x.negative then "-" else ""
  if x.mantissa = 0 then sign ++ "0.0" else sign ++ x.shortest.text

end TypedRoutes.Numeric

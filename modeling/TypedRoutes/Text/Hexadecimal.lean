/-!
Hexadecimal digits, and the characters that numbers stand for.
-/

set_option autoImplicit false
set_option relaxedAutoImplicit false

namespace TypedRoutes.Text

def hexDigit (n : Nat) : Char :=
  if n < 10 then Char.ofNat (48 + n) else Char.ofNat (87 + n)

def hexQuad (n : Nat) : List Char :=
  [hexDigit (n / 4096 % 16), hexDigit (n / 256 % 16), hexDigit (n / 16 % 16), hexDigit (n % 16)]

def hexValue? (c : Char) : Option Nat :=
  if c.isDigit then some (c.toNat - 48)
  else if 'a' ≤ c ∧ c ≤ 'f' then some (c.toNat - 87)
  else if 'A' ≤ c ∧ c ≤ 'F' then some (c.toNat - 55)
  else none

def hexNumber? (digits : List Char) : Option Nat :=
  digits.foldlM (fun value c => (hexValue? c).map (16 * value + ·)) 0

/-- The character of a number; surrogates and what lies beyond the last plane are none. -/
def character? (n : Nat) : Option Char :=
  if n.isValidChar then some (Char.ofNat n) else none

/-- Takes as many digits off the front of a text as are asked for, and the character that they
stand for. -/
def takeHexCharacter? (count : Nat) (text : List Char) : Option (Char × List Char) := do
  let digits := text.take count
  let value ← hexNumber? digits
  let c ← character? value
  if digits.length = count then some (c, text.drop count) else none

end TypedRoutes.Text

import TypedRoutes.Json.Basic
import TypedRoutes.Yaml.Tag

/-!
The values that plain scalars stand for: null, booleans, integers in four bases, decimal numbers,
and texts for all else. Digits behind a leading zero are a text.
-/

set_option autoImplicit false
set_option relaxedAutoImplicit false

namespace TypedRoutes.Yaml

/-- The words for null; an empty scalar is not among them. -/
def isNullWord (text : String) : Bool := ["null", "Null", "NULL", "~"].contains text

def boolean? (text : String) : Option Bool :=
  if ["true", "True", "TRUE"].contains text then some true
  else if ["false", "False", "FALSE"].contains text then some false
  else none

def digitIn? (base : Nat) (c : Char) : Option Nat :=
  let value? :=
    if c.isDigit then some (c.toNat - 48)
    else if 'a' ≤ c ∧ c ≤ 'z' then some (c.toNat - 87)
    else if 'A' ≤ c ∧ c ≤ 'Z' then some (c.toNat - 55)
    else none
  value?.filter fun value => value < base

/-- The number that digits in a base stand for; there must be one at least. -/
def natural? (base : Nat) (digits : List Char) : Option Nat :=
  if digits.isEmpty then none
  else digits.foldlM (fun value c => (digitIn? base c).map (base * value + ·)) 0

/-- The base that a number is marked with, and what follows the mark. -/
def markedBase? : List Char → Option (Nat × List Char)
  | '0' :: 'x' :: rest => some (16, rest)
  | '0' :: 'o' :: rest => some (8, rest)
  | '0' :: 'b' :: rest => some (2, rest)
  | _ => none

def withoutSign : List Char → List Char
  | '+' :: rest => rest
  | '-' :: rest => rest
  | text => text

/-- Whether a text consists of digits and starts with a zero that is not all of it. -/
def isZeroPadded (text : List Char) : Bool :=
  match withoutSign text with
  | '0' :: c :: rest => (c :: rest).all Char.isDigit
  | _ => false

/-- The integer that a text stands for, before its size is looked at. -/
def integer? (text : List Char) : Option Int :=
  let (negative, digits) := match text with
    | '+' :: rest => (false, rest)
    | '-' :: rest => (true, rest)
    | text => (false, text)
  let value? :=
    match (markedBase? digits).bind fun marked => natural? marked.1 marked.2 with
    | some value => some value
    | none => if isZeroPadded text then none else natural? 10 digits
  value?.map fun value => if negative then -(value : Int) else value

/-- A number with a decimal point or an exponent: its digits and its power of ten. -/
def decimal? (text : List Char) : Option (Bool × Nat × Int) := do
  let (negative, text) := match text with
    | '+' :: rest => (false, rest)
    | '-' :: rest => (true, rest)
    | text => (false, text)
  let whole := text.takeWhile Char.isDigit
  let (fraction, rest) := match text.dropWhile Char.isDigit with
    | '.' :: rest => (rest.takeWhile Char.isDigit, rest.dropWhile Char.isDigit)
    | rest => ([], rest)
  let digits := whole ++ fraction
  let significand ← natural? 10 digits
  let exponent ← match rest with
    | [] => some (0 : Int)
    | mark :: rest =>
      if mark = 'e' ∨ mark = 'E' then
        match rest with
        | '-' :: rest => (natural? 10 rest).map fun value => -(value : Int)
        | '+' :: rest => (natural? 10 rest).map fun value => (value : Int)
        | rest => (natural? 10 rest).map fun value => (value : Int)
      else none
  some (negative, significand, exponent - fraction.length)

/-- The texts for infinity and for no number, which have no value in JSON. -/
def isNoNumber (text : String) : Bool :=
  [".inf", ".Inf", ".INF", "+.inf", "+.Inf", "+.INF", "-.inf", "-.Inf", "-.INF",
    ".nan", ".NaN", ".NAN"].contains text

/-- The value of a number with a decimal point or an exponent; numbers that are too large have
none, and infinities are null. -/
def double? (text : String) : Option Json :=
  if isNoNumber text then some .null
  else do
    let (negative, digits, exponent) ← decimal? text.toList
    let value ← Numeric.Double.ofDecimal? negative digits exponent
    some (.number (.double value))

inductive Reach where
  | kept
  | refused
  | double

/-- Whether an integer has so many bits, with a sign if it is negative. -/
def fits (bits : Nat) (value : Int) : Bool :=
  -(Nat.pow 2 (bits - 1) : Nat) ≤ value && value < (Nat.pow 2 bits : Nat)

/-- An integer of 64 bits is kept, one of 128 bits is refused, and a larger one is a double. -/
def Reach.ofInteger (value : Int) : Reach :=
  if fits 64 value then .kept
  else if fits 128 value then .refused
  else .double

/-- The value of a plain scalar; none if it is an integer that is refused. -/
def plainValue? (text : String) : Option Json :=
  if text.isEmpty || isNullWord text then some .null
  else
    match boolean? text with
    | some value => some (.bool value)
    | none =>
      let other := if isZeroPadded text.toList then none else double? text
      let fallback := some (other.getD (.string text))
      match integer? text.toList with
      | none => fallback
      | some value =>
        match Reach.ofInteger value with
        | .kept => some (.number (.integer value))
        | .refused => none
        | .double => fallback

/-- The value of a scalar with a tag or none; none if it is refused. A local tag that is no text
counts as none. -/
def scalarValue? (tag : Option Tag) (plain : Bool) (text : String) : Option Json :=
  let untagged := if plain then plainValue? text else some (.string text)
  match tag with
  | none => untagged
  | some tag =>
    if tag.isForeign then none
    else if tag.isLocal then untagged
    else if tag = Tag.standard "bool" then (boolean? text).map .bool
    else if tag = Tag.standard "int" then
      (integer? text.toList).bind fun value =>
        match Reach.ofInteger value with
        | .kept => some (.number (.integer value))
        | _ => none
    else if tag = Tag.standard "float" then double? text
    else if tag = Tag.standard "null" then if isNullWord text then some .null else none
    else some (.string text)

end TypedRoutes.Yaml

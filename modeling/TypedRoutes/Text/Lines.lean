/-!
Lines of a text, and the byte that a line and column point at.
-/

set_option autoImplicit false
set_option relaxedAutoImplicit false

namespace TypedRoutes.Text

/-- A text cut after every line feed; the pieces put together give the text back. -/
def cutLines : List Char → List (List Char)
  | [] => []
  | c :: rest =>
    if c = '\n' then [c] :: cutLines rest
    else match cutLines rest with
      | [] => [[c]]
      | line :: more => (c :: line) :: more

/-- A piece of text without its line end, which is a line feed or a carriage return and one. -/
def dropLineEnd (piece : List Char) : List Char :=
  match piece.reverse with
  | '\n' :: '\r' :: before => before.reverse
  | '\n' :: before => before.reverse
  | _ => piece

def lines (text : String) : List String :=
  (cutLines text.toList).map fun piece => String.ofList (dropLineEnd piece)

def utf8Length : List Char → Nat
  | [] => 0
  | c :: rest => c.utf8Size + utf8Length rest

/-- The number of bytes in front of a line that has some lines before it. -/
def lineStart (text : String) (before : Nat) : Nat :=
  utf8Length ((cutLines text.toList).take before).flatten

/-- What a build does with a sum that does not fit into a machine word: it stops, or it goes on with
what the word keeps of the sum. -/
inductive Overflow where
  | stops
  | wraps
  deriving DecidableEq, Repr

/-- The sum of two words; none where the build stops. -/
def Overflow.add? : Overflow → UInt64 → UInt64 → Option UInt64
  | .stops, first, second =>
    if first.toNat + second.toNat < UInt64.size then some (first + second) else none
  | .wraps, first, second => some (first + second)

/--
The byte that a line (from 1) and a column (from 1, in bytes) point at, never past the end of the
text; line 0 points nowhere. The outer result is none where the build stops.
-/
def lineColumnOffset? (overflow : Overflow) (text : String) (line column : UInt64) :
    Option (Option Nat) :=
  if line = 0 then some none
  else
    let start := (lineStart text (line.toNat - 1)).toUInt64
    let before := (column.toNat - 1).toUInt64
    (overflow.add? start before).map fun offset =>
      some (min offset.toNat (utf8Length text.toList))

/-- The byte offset of the first place where a text holds the given characters. -/
def offsetOf? (part : List Char) : List Char → Option Nat
  | [] => if part.isEmpty then some 0 else none
  | c :: rest =>
    if part.isPrefixOf (c :: rest) then some 0
    else (offsetOf? part rest).map (c.utf8Size + ·)

end TypedRoutes.Text

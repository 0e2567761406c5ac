import TypedRoutes.Yaml.Scalar
import TypedRoutes.Yaml.Tag

/-!
The tokens of a YAML text, and the reading of the words that anchors, tags and directives are
written in.
-/

set_option autoImplicit false
set_option relaxedAutoImplicit false

namespace TypedRoutes.Yaml

inductive Token where
  | version (major minor : Nat)
  | tagShorthand (handle : String) (lead : Tag)
  | documentStart
  | documentEnd
  | sequenceStart
  | mappingStart
  | blockEnd
  | flowSequenceStart
  | flowSequenceEnd
  | flowMappingStart
  | flowMappingEnd
  | entry
  | flowEntry
  | key
  | value
  | alias (name : String)
  | anchor (name : String)
  | tag (handle : String) (suffix : Tag)
  | scalar (plain : Bool) (text : String)
  deriving DecidableEq, Repr

def endsAnchor (c : Char) : Bool :=
  isBlank c || isBreak c || ['?', ':', ',', ']', '}', '%', '@', Char.ofNat 0x60].contains c

/-- Reads the name of an anchor or alias behind its indicator. -/
def readAnchor (cursor : Cursor) : Option (String × Cursor) :=
  let name := cursor.rest.takeWhile isWordChar
  let cursor := cursor.steps name.length
  if !name.isEmpty ∧ cursor.rest.head?.all endsAnchor then some (String.ofList name, cursor)
  else none

/-- The characters of a tag; commas and brackets only inside angle brackets. -/
def isTagChar (bracketed : Bool) (c : Char) : Bool :=
  isWordChar c ||
    [';', '/', '?', ':', '@', '&', '=', '+', '$', '.', '%', '!', '~', '*', Char.ofNat 0x27, '(',
      ')'].contains c ||
    (bracketed && (c == ',' || c == '[' || c == ']'))

/-- The number of bytes of a character by its first byte. -/
def leadWidth? (byte : Nat) : Option Nat :=
  if byte < 0x80 then some 1
  else if 0xC0 ≤ byte ∧ byte < 0xE0 then some 2
  else if 0xE0 ≤ byte ∧ byte < 0xF0 then some 3
  else if 0xF0 ≤ byte ∧ byte < 0xF8 then some 4
  else none

/-- Reads bytes that are written as a percent sign and two hexadecimal digits each. -/
def readEscapedBytes : Nat → Cursor → Option (List Nat × Cursor)
  | 0, cursor => some ([], cursor)
  | count + 1, cursor =>
    match cursor.rest with
    | '%' :: high :: low :: _ => do
      let byte ← Text.hexNumber? [high, low]
      let (bytes, cursor) ← readEscapedBytes count (cursor.steps 3)
      some (byte :: bytes, cursor)
    | _ => none

/-- Reads the escaped bytes of one character of a tag. Only the first byte is asked how many belong
together, so the bytes need not be those of a character. -/
def readTagEscape (cursor : Cursor) : Option (List UInt8 × Cursor) := do
  let (first, _) ← readEscapedBytes 1 cursor
  let lead ← first.head?
  let width ← leadWidth? lead
  let (bytes, cursor) ← readEscapedBytes width cursor
  if bytes.tail.any fun byte => byte < 0x80 || 0xBF < byte then none
  else some (bytes.map UInt8.ofNat, cursor)

/-- Reads the bytes of a tag; `read` holds those so far, the last one first. -/
def readTagBytes (bracketed : Bool) : Nat → List UInt8 → Cursor → Option (List UInt8 × Cursor)
  | 0, _, _ => none
  | fuel + 1, read, cursor =>
    match cursor.rest with
    | [] => some (read, cursor)
    | c :: _ =>
      if c = '%' then do
        let (bytes, cursor) ← readTagEscape cursor
        readTagBytes bracketed fuel (bytes.reverse ++ read) cursor
      else if isTagChar bracketed c then
        readTagBytes bracketed fuel (c.toUInt8 :: read) cursor.step
      else some (read, cursor)

/-- Reads a tag behind the characters of `head`, which count as read; it must not be empty. Of
what is read, the part in front of a zero byte is kept. -/
def readTagUri (bracketed : Bool) (head : List Char) (cursor : Cursor) : Option (Tag × Cursor) := do
  let start := (head.tail.map Char.toUInt8).reverse
  let (read, after) ← readTagBytes bracketed (cursor.left + 1) start cursor
  if head.isEmpty ∧ after.index = cursor.index then none
  else some (Tag.untilZero read.reverse, after)

/-- Reads a tag handle: an exclamation mark, a word, and if it is there another mark. -/
def readTagHandle (cursor : Cursor) : Option (List Char × Cursor) :=
  if cursor.startsWith '!' then
    let word := cursor.step.rest.takeWhile isWordChar
    let cursor := cursor.steps (word.length + 1)
    if cursor.startsWith '!' then some ('!' :: (word ++ ['!']), cursor.step)
    else some ('!' :: word, cursor)
  else none

def readTag (inFlow : Bool) (cursor : Cursor) : Option (Token × Cursor) := do
  let (token, cursor) ←
    if cursor.step.startsWith '<' then do
      let (suffix, cursor) ← readTagUri true [] (cursor.steps 2)
      if cursor.startsWith '>' then some (Token.tag "" suffix, cursor.step) else none
    else do
      let (handle, cursor) ← readTagHandle cursor
      if 1 < handle.length ∧ handle.getLast? = some '!' then do
        let (suffix, cursor) ← readTagUri false [] cursor
        some (Token.tag (String.ofList handle) suffix, cursor)
      else do
        let (suffix, cursor) ← readTagUri false handle cursor
        some (if suffix.isEmpty then Token.tag "" [Tag.localMark] else Token.tag "!" suffix, cursor)
  if cursor.endsWordAt 0 || (inFlow && cursor.startsWith ',') then some (token, cursor) else none

/-- Reads a part of a version number, which has at most nine digits. -/
def readVersionPart (cursor : Cursor) : Option (Nat × Cursor) :=
  let digits := cursor.rest.takeWhile Char.isDigit
  if digits.isEmpty ∨ 9 < digits.length then none
  else some (digits.foldl (fun n c => 10 * n + (c.toNat - 48)) 0, cursor.steps digits.length)

/-- Reads a directive behind its percent sign, up to the end of its line. -/
def readDirective (cursor : Cursor) : Option (Token × Cursor) := do
  let name := cursor.rest.takeWhile isWordChar
  let cursor := cursor.steps name.length
  if !cursor.endsWordAt 0 then none
  let cursor := cursor.skip isBlank
  let (token, cursor) ← match String.ofList name with
    | "YAML" => do
      let (major, cursor) ← readVersionPart cursor
      if !cursor.startsWith '.' then none
      let (minor, cursor) ← readVersionPart cursor.step
      some (Token.version major minor, cursor)
    | "TAG" => do
      let (handle, cursor) ← readTagHandle cursor
      if handle ≠ ['!'] ∧ handle.getLast? ≠ some '!' then none
      if !cursor.atBlank then none
      let (lead, cursor) ← readTagUri true [] (cursor.skip isBlank)
      if !cursor.endsWordAt 0 then none
      some (Token.tagShorthand (String.ofList handle) lead, cursor)
    | _ => none
  let cursor ← cursor.skipRestOfLine?
  some (token, cursor)

end TypedRoutes.Yaml

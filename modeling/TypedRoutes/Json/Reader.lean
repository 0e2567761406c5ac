import TypedRoutes.Json.Reading
import TypedRoutes.Text.Hexadecimal

/-!
The reader of JSON texts. It follows the text character by character, keeps the place for error
messages, and gives back a value that breaks off at the first fault.

A value can also be skimmed: it is passed over without being kept. Skimming does not limit the
nesting, takes any surrogates in strings and numbers of any size, and stops in front of a control
character instead of behind it.
-/

set_option autoImplicit false
set_option relaxedAutoImplicit false

namespace TypedRoutes.Json

namespace Position

/-- The place behind the first byte of a character. -/
def afterByte (p : Position) (c : Char) : Position :=
  if c = '\n' then ⟨p.line + 1, 0⟩ else ⟨p.line, p.column + 1⟩

/-- The place behind a character. -/
def after (p : Position) (c : Char) : Position :=
  if c = '\n' then ⟨p.line + 1, 0⟩ else ⟨p.line, p.column + c.utf8Size⟩

end Position

/-- What is left of a text, and the place where it starts. -/
structure Cursor where
  rest : List Char
  position : Position := {}

namespace Cursor

def step (cursor : Cursor) : Cursor :=
  match cursor.rest with
  | [] => cursor
  | c :: rest => ⟨rest, cursor.position.after c⟩

def faultPosition (cursor : Cursor) : Position :=
  match cursor.rest with
  | [] => cursor.position
  | c :: _ => cursor.position.afterByte c

/-- A fault in the next character. -/
def faultAhead (cursor : Cursor) (fault : Fault) : SyntaxError := ⟨fault, cursor.faultPosition⟩

/-- A fault in what has just been read. -/
def faultBehind (cursor : Cursor) (fault : Fault) : SyntaxError := ⟨fault, cursor.position⟩

def skipWhile (kind : Char → Bool) (position : Position) : List Char → Cursor
  | [] => ⟨[], position⟩
  | c :: rest => if kind c then skipWhile kind (position.after c) rest else ⟨c :: rest, position⟩

def skipBlanks (cursor : Cursor) : Cursor :=
  skipWhile (fun c => c == ' ' || c == '\n' || c == '\t' || c == '\r') cursor.position cursor.rest

def takeDigits (cursor : Cursor) : List Char × Cursor :=
  (cursor.rest.takeWhile Char.isDigit, skipWhile Char.isDigit cursor.position cursor.rest)

end Cursor

/-- Whether a value is kept or only passed over. -/
inductive Mode where
  | keep
  | skim
  deriving DecidableEq

/--
Where the reader stands inside a string: in plain text, behind a backslash, inside four bytes of
digits, or behind the first half of a surrogate pair, of which the second half must follow.
-/
inductive StringState where
  | plain
  | escape
  | hex (high : Option Nat) (bytesLeft : Nat) (value : Option Nat)
  | awaitEscape (high : Nat)
  | awaitUnicode (high : Nat)

def simpleEscape? (c : Char) : Option Char :=
  if c = '"' ∨ c = '\\' ∨ c = '/' then some c
  else if c = 'b' then some (Char.ofNat 0x08)
  else if c = 'f' then some (Char.ofNat 0x0C)
  else if c = 'n' then some '\n'
  else if c = 'r' then some '\r'
  else if c = 't' then some '\t'
  else none

/-- The state behind four hexadecimal digits, and the character they complete, if they do. -/
def finishHex (mode : Mode) (high : Option Nat) (value : Nat) :
    Except Fault (StringState × List Char) :=
  match mode, high with
  | .skim, _ => .ok (.plain, [])
  | .keep, none =>
    if 0xDC00 ≤ value ∧ value ≤ 0xDFFF then .error .loneSurrogate
    else if 0xD800 ≤ value ∧ value ≤ 0xDBFF then .ok (.awaitEscape value, [])
    else .ok (.plain, [Char.ofNat value])
  | .keep, some high =>
    if value < 0xDC00 ∨ 0xDFFF < value then .error .loneSurrogate
    else .ok (.plain, [Char.ofNat ((high - 0xD800) * 0x400 + (value - 0xDC00) + 0x10000)])

def Position.afterBytes (p : Position) (c : Char) (bytes : Nat) : Position :=
  if c = '\n' then ⟨p.line + 1, 0⟩ else ⟨p.line, p.column + bytes⟩

/-- Reads the inside of a string up to the closing quote; `read` holds the characters so far,
the last one first. -/
def readString (mode : Mode) (state : StringState) (read : List Char) (p : Position) :
    List Char → Except SyntaxError (List Char × Cursor)
  | [] => .error ⟨.endInString, p⟩
  | c :: rest =>
    match state with
    | .plain =>
      if c = '"' then .ok (read.reverse, ⟨rest, p.after c⟩)
      else if c = '\\' then readString mode .escape read (p.after c) rest
      else if c.toNat < 0x20 then
        .error ⟨.controlCharacter, if mode = .skim then p else p.afterByte c⟩
      else readString mode .plain (c :: read) (p.after c) rest
    | .escape =>
      if c = 'u' then readString mode (.hex none 4 (some 0)) read (p.after c) rest
      else match simpleEscape? c with
        | some plain => readString mode .plain (plain :: read) (p.after c) rest
        | none => .error ⟨.invalidEscape, p.afterByte c⟩
    | .hex high bytesLeft value =>
      let value := value.bind fun v => (Text.hexValue? c).map (16 * v + ·)
      if c.utf8Size < bytesLeft then
        readString mode (.hex high (bytesLeft - c.utf8Size) value) read (p.after c) rest
      else match value with
        | none => .error ⟨.invalidEscape, p.afterBytes c bytesLeft⟩
        | some value =>
          match finishHex mode high value with
          | .error fault => .error ⟨fault, p.after c⟩
          | .ok (state, done) => readString mode state (done ++ read) (p.after c) rest
    | .awaitEscape high =>
      if c = '\\' then readString mode (.awaitUnicode high) read (p.after c) rest
      else .error ⟨.unfinishedSurrogate, p.afterByte c⟩
    | .awaitUnicode high =>
      if c = 'u' then readString mode (.hex (some high) 4 (some 0)) read (p.after c) rest
      else .error ⟨.unfinishedSurrogate, p.afterByte c⟩

/-- The spelling of a number: sign, digits before and after the point, and the exponent, with
whether it is negative. -/
structure Numeral where
  negative : Bool
  whole : List Char
  fraction : List Char
  exponent : Option (Bool × List Char)

def greatestInteger : Nat := Nat.pow 2 64 - 1

/-- The greatest magnitude of a negative number that is kept as an integer. -/
def greatestMagnitude : Nat := Nat.pow 2 63

/-- Appends digits to a significand as long as it stays an integer that is kept; the digits that
do not fit are given back. -/
def appendDigits (significand : Nat) : List Char → Nat × List Char
  | [] => (significand, [])
  | c :: rest =>
    let next := significand * 10 + (c.toNat - 48)
    if next ≤ greatestInteger then appendDigits next rest else (significand, c :: rest)

/-- Scales by a power of ten in steps of at most `10 ^ 308`, rounding at each step; none if the
number becomes too large. -/
def scaleByTen : Nat → Numeric.Double → Int → Option Numeric.Double
  | 0, x, _ => some x
  | fuel + 1, x, exponent =>
    if -308 ≤ exponent ∧ exponent ≤ 308 then
      (Numeric.Double.ofDecimal? false 1 exponent.natAbs).bind fun power =>
        if 0 ≤ exponent then x.mul? power else x.div? power
    else if x.mantissa = 0 then some x
    else if 0 ≤ exponent then none
    else
      ((Numeric.Double.ofDecimal? false 1 308).bind fun power => x.div? power).bind
        fun x => scaleByTen fuel x (exponent + 308)

/-- The double of a significand and a power of ten; none if it is too large. -/
def doubleOfParts (negative : Bool) (significand : Nat) (exponent : Int) :
    Option Numeric.Double :=
  ((Numeric.Double.ofRatio? false significand 1).bind fun x =>
    scaleByTen 5 x exponent).map fun x => if negative then x.neg else x

def greatestExponent : Nat := Nat.pow 2 31 - 1

/-- The value of exponent digits, or how many of them are read until it is too large. -/
def exponentValue (value read : Nat) : List Char → Except Nat Nat
  | [] => .ok value
  | c :: rest =>
    let next := value * 10 + (c.toNat - 48)
    if next ≤ greatestExponent then exponentValue next (read + 1) rest else .error (read + 1)

/-- The double of a significand, a power of ten and a written exponent; in the error case, the
number of exponent digits read until the number is found to be too large. -/
def applyExponent (negative : Bool) (significand : Nat) (start : Int) :
    Option (Bool × List Char) → Except Nat Numeric.Double
  | none =>
    match doubleOfParts negative significand start with
    | some x => .ok x
    | none => .error 0
  | some (below, digits) =>
    match exponentValue 0 0 digits with
    | .error read =>
      if significand ≠ 0 ∧ !below then .error read
      else .ok (Numeric.Double.zero negative)
    | .ok value =>
      match doubleOfParts negative significand (if below then start - value else start + value) with
      | some x => .ok x
      | none => .error digits.length

/-- The number that a numeral denotes; in the error case, the number of exponent digits read until
it is found to be too large. -/
def Numeral.value (numeral : Numeral) : Except Nat Number :=
  let (significand, more) := appendDigits 0 numeral.whole
  if more.isEmpty ∧ numeral.fraction.isEmpty ∧ numeral.exponent.isNone then
    if !numeral.negative then .ok (.integer significand)
    else if significand = 0 ∨ greatestMagnitude < significand then
      match doubleOfParts true significand 0 with
      | some x => .ok (.double x)
      | none => .error 0
    else .ok (.integer (-significand))
  else
    let (significand', unused) := appendDigits significand numeral.fraction
    let start : Int := (more.length : Int) - (numeral.fraction.length - unused.length : Nat)
    (applyExponent numeral.negative significand' start numeral.exponent).map .double

def endOfNumber : Mode → Fault
  | .keep => .endInValue
  | .skim => .invalidNumber

/-- Reads the exponent of a numeral behind its `e`. -/
def readExponent (mode : Mode) (cursor : Cursor) :
    Except SyntaxError ((Bool × List Char) × Cursor) :=
  let (below, cursor) := match cursor.rest with
    | '+' :: _ => (false, cursor.step)
    | '-' :: _ => (true, cursor.step)
    | _ => (false, cursor)
  match cursor.rest with
  | [] => .error (cursor.faultBehind (endOfNumber mode))
  | c :: _ =>
    if c.isDigit then
      let (digits, cursor) := cursor.takeDigits
      .ok ((below, digits), cursor)
    else .error (cursor.faultAhead .invalidNumber)

def readAfterWhole (mode : Mode) (negative : Bool) (whole : List Char) (cursor : Cursor) :
    Except SyntaxError (Numeral × Cursor) := do
  let (fraction, cursor) ← match cursor.rest with
    | '.' :: _ =>
      let (digits, cursor) := cursor.step.takeDigits
      if digits.isEmpty then
        .error (cursor.faultAhead
          (if cursor.rest.isEmpty then endOfNumber mode else .invalidNumber))
      else .ok (digits, cursor)
    | _ => .ok ([], cursor)
  match cursor.rest with
  | c :: _ =>
    if c = 'e' ∨ c = 'E' then
      let (exponent, cursor) ← readExponent mode cursor.step
      .ok (⟨negative, whole, fraction, some exponent⟩, cursor)
    else .ok (⟨negative, whole, fraction, none⟩, cursor)
  | [] => .ok (⟨negative, whole, fraction, none⟩, cursor)

def readNumeral (mode : Mode) (cursor : Cursor) : Except SyntaxError (Numeral × Cursor) :=
  let (negative, cursor) := match cursor.rest with
    | '-' :: _ => (true, cursor.step)
    | _ => (false, cursor)
  match cursor.rest with
  | [] => .error (cursor.faultBehind (endOfNumber mode))
  | c :: rest =>
    if c = '0' then
      match rest with
      | d :: _ =>
        if d.isDigit then .error (cursor.step.faultAhead .invalidNumber)
        else readAfterWhole mode negative [c] cursor.step
      | [] => readAfterWhole mode negative [c] cursor.step
    else if c.isDigit then
      let (digits, cursor) := cursor.takeDigits
      readAfterWhole mode negative digits cursor
    else .error (cursor.faultAhead .invalidNumber)

def Position.back (p : Position) (columns : Nat) : Position := ⟨p.line, p.column - columns⟩

def readNumber (mode : Mode) (cursor : Cursor) : Except SyntaxError (Number × Cursor) := do
  let (numeral, cursor) ← readNumeral mode cursor
  match mode with
  | .skim => .ok (.integer 0, cursor)
  | .keep =>
    match numeral.value with
    | .ok value => .ok (value, cursor)
    | .error read =>
      let digits := match numeral.exponent with
        | some (_, digits) => digits.length
        | none => 0
      .error ⟨.numberOutOfRange, cursor.position.back (digits - read)⟩

def readWord (word : List Char) (cursor : Cursor) : Except SyntaxError Cursor :=
  match word with
  | [] => .ok cursor
  | expected :: more =>
    match cursor.rest with
    | [] => .error (cursor.faultBehind .endInValue)
    | c :: _ =>
      if c = expected then readWord more cursor.step
      else .error (cursor.faultAhead .expectedWord)

def nestingLimit : Nat := 128

mutual

/--
Reads a value at a nesting budget. The cursor behind it is missing when the value breaks off.
`fuel` bounds the number of steps; twice the length of the text is enough.
-/
def readValue : Nat → Nat → Mode → Cursor → Reading × Option Cursor
  | 0, _, _, cursor => (.broken (cursor.faultAhead .expectedValue), none)
  | fuel + 1, budget, mode, cursor =>
    let cursor := cursor.skipBlanks
    let word (letters : String) (value : Reading) : Reading × Option Cursor :=
      match readWord letters.toList cursor.step with
      | .ok next => (value, some next)
      | .error error => (.broken error, none)
    match cursor.rest with
    | [] => (.broken (cursor.faultBehind .endInValue), none)
    | 'n' :: _ => word "ull" .null
    | 't' :: _ => word "rue" (.bool true)
    | 'f' :: _ => word "alse" (.bool false)
    | '"' :: rest =>
      match readString mode .plain [] (cursor.position.after '"') rest with
      | .ok (text, next) => (.string (String.ofList text), some next)
      | .error error => (.broken error, none)
    | '[' :: _ =>
      if mode = .keep ∧ budget ≤ 1 then
        (.broken (cursor.faultAhead .nestedTooDeeply), none)
      else
        let (items, stop, next) := readItems fuel (budget - 1) mode true cursor.step
        (.array items stop, next)
    | '{' :: _ =>
      if mode = .keep ∧ budget ≤ 1 then
        (.broken (cursor.faultAhead .nestedTooDeeply), none)
      else
        let (fields, stop, next) :=
          readFields fuel (budget - 1) mode (fun _ => mode) true cursor.step
        (.object fields stop, next)
    | c :: _ =>
      if c = '-' ∨ c.isDigit then
        match readNumber mode cursor with
        | .ok (value, next) => (.number value, some next)
        | .error error => (.broken error, none)
      else (.broken (cursor.faultAhead .expectedValue), none)

/-- Reads the items of an array behind its bracket, or behind an item. -/
def readItems : Nat → Nat → Mode → Bool → Cursor →
    List (Option Position × Reading) × Option SyntaxError × Option Cursor
  | 0, _, _, _, cursor => ([], some (cursor.faultAhead .expectedValue), none)
  | fuel + 1, budget, mode, first, cursor =>
    let cursor := cursor.skipBlanks
    let item (cursor : Cursor) :
        List (Option Position × Reading) × Option SyntaxError × Option Cursor :=
      match readValue fuel budget mode cursor with
      | (reading, none) => ([(some cursor.faultPosition, reading)], none, none)
      | (reading, some next) =>
        let (items, stop, next) := readItems fuel budget mode false next
        ((some cursor.faultPosition, reading) :: items, stop, next)
    match cursor.rest with
    | [] => ([], some (cursor.faultBehind .endInArray), none)
    | ']' :: _ => ([], none, some cursor.step)
    | c :: _ =>
      if first then item cursor
      else if c = ',' then
        let cursor := cursor.step.skipBlanks
        match cursor.rest with
        | [] => ([], some (cursor.faultBehind .endInValue), none)
        | ']' :: _ =>
          let fault := if mode = .keep then Fault.trailingComma else .expectedValue
          ([], some (cursor.faultAhead fault), none)
        | _ :: _ => item cursor
      else ([], some (cursor.faultAhead .expectedCommaOrBracket), none)

/-- Reads the fields of an object behind its brace, or behind a field. A key without a colon is a
field whose value is broken. -/
def readFields : Nat → Nat → Mode → (String → Mode) → Bool → Cursor →
    List (String × Reading) × Option SyntaxError × Option Cursor
  | 0, _, _, _, _, cursor => ([], some (cursor.faultAhead .expectedValue), none)
  | fuel + 1, budget, mode, modeOf, first, cursor =>
    let cursor := cursor.skipBlanks
    let field (cursor : Cursor) (rest : List Char) :
        List (String × Reading) × Option SyntaxError × Option Cursor :=
      match readString mode .plain [] (cursor.position.after '"') rest with
      | .error error => ([], some error, none)
      | .ok (key, next) =>
        let key := String.ofList key
        let next := next.skipBlanks
        match next.rest with
        | [] => ([(key, .broken (next.faultBehind .endInObject))], none, none)
        | ':' :: _ =>
          match readValue fuel budget (modeOf key) next.step with
          | (reading, none) => ([(key, reading)], none, none)
          | (reading, some next) =>
            let (fields, stop, next) := readFields fuel budget mode modeOf false next
            ((key, reading) :: fields, stop, next)
        | _ :: _ => ([(key, .broken (next.faultAhead .expectedColon))], none, none)
    match cursor.rest with
    | [] => ([], some (cursor.faultBehind .endInObject), none)
    | '}' :: _ => ([], none, some cursor.step)
    | c :: rest =>
      if first then
        if c = '"' then field cursor rest else ([], some (cursor.faultAhead .keyNotString), none)
      else if c = ',' then
        let cursor := cursor.step.skipBlanks
        match cursor.rest with
        | [] =>
          let fault := if mode = .keep then Fault.endInValue else .endInObject
          ([], some (cursor.faultBehind fault), none)
        | '"' :: rest => field cursor rest
        | '}' :: _ =>
          let fault := if mode = .keep then Fault.trailingComma else .keyNotString
          ([], some (cursor.faultAhead fault), none)
        | _ :: _ => ([], some (cursor.faultAhead .keyNotString), none)
      else ([], some (cursor.faultAhead .expectedCommaOrBrace), none)

end

/-- What follows a value at the end of a text: blanks only, or a fault. -/
def readEnd (cursor : Cursor) : Option SyntaxError :=
  let cursor := cursor.skipBlanks
  if cursor.rest.isEmpty then none else some (cursor.faultAhead .trailingCharacters)

/-- A text read as far as it goes: its value, and the fault behind the value. -/
structure Document where
  value : Reading
  stop : Option SyntaxError

/-- Reads a text. The root fields for which `skimmed` holds are passed over. -/
def readDocument (skimmed : String → Bool) (text : String) : Document :=
  let cursor : Cursor := { rest := text.toList : Cursor }.skipBlanks
  let fuel := 2 * cursor.rest.length + 2
  let (value, next) := match cursor.rest with
    | '{' :: _ =>
      let modeOf (key : String) : Mode := if skimmed key then .skim else .keep
      let (fields, stop, next) :=
        readFields fuel (nestingLimit - 1) .keep modeOf true cursor.step
      (Reading.object fields stop, next)
    | _ => readValue fuel nestingLimit .keep cursor
  ⟨value, next.bind readEnd⟩

/-- Reads a text and decodes its value; the value comes before what follows it. -/
def decodeText {α : Type} (skimmed : String → Bool) (decode : Reading → Except ReadError α)
    (text : String) : Except ReadError α := do
  let document := readDocument skimmed text
  let value ← decode document.value
  Reading.ending document.stop
  .ok value

def parse (text : String) : Except ReadError Json :=
  decodeText (fun _ => false) (fun reading => reading.toJson.map collapse) text

end TypedRoutes.Json

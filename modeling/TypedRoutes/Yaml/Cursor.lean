/-!
Places in a YAML text, and the classes of characters that end lines and words.
-/

set_option autoImplicit false
set_option relaxedAutoImplicit false

namespace TypedRoutes.Yaml

def nextLine : Char := Char.ofNat 0x85

def lineSeparator : Char := Char.ofNat 0x2028

def paragraphSeparator : Char := Char.ofNat 0x2029

def byteOrderMark : Char := Char.ofNat 0xFEFF

def isBreak (c : Char) : Bool :=
  c == '\n' || c == '\r' || c == nextLine || c == lineSeparator || c == paragraphSeparator

def isBlank (c : Char) : Bool := c == ' ' || c == '\t'

def isPrintable (c : Char) : Bool :=
  let n := c.toNat
  n == 0x09 || n == 0x0A || n == 0x0D || (0x20 ≤ n && n ≤ 0x7E) || n == 0x85 ||
    (0xA0 ≤ n && n ≤ 0xD7FF) || (0xE000 ≤ n && n ≤ 0xFFFD) || 0x10000 ≤ n

def isWordChar (c : Char) : Bool := c.isAlphanum || c == '_' || c == '-'

def byteCount (text : List Char) : Nat := text.foldl (fun count c => count + c.utf8Size) 0

/-- What is left of a text, and where it starts; lines and columns count from 0, and a column holds
one character. `index` is the number of bytes that have been read, and `total` that of all. -/
structure Cursor where
  rest : List Char
  total : Nat
  index : Nat := 0
  line : Nat := 0
  column : Nat := 0

namespace Cursor

def ofText (text : List Char) : Cursor := { rest := text, total := byteCount text }

def left (cursor : Cursor) : Nat := cursor.total - cursor.index

def step (cursor : Cursor) : Cursor :=
  match cursor.rest with
  | [] => cursor
  | c :: rest =>
    { cursor with
      rest := rest, index := cursor.index + c.utf8Size, column := cursor.column + 1 }

/-- The cursor behind some characters of a line. -/
def steps (cursor : Cursor) (count : Nat) : Cursor :=
  let taken := cursor.rest.take count
  { cursor with
    rest := cursor.rest.drop count
    index := cursor.index + byteCount taken
    column := cursor.column + taken.length }

/-- The cursor behind a line break; a carriage return takes a line feed with it. -/
def stepLine (cursor : Cursor) : Cursor :=
  match cursor.rest with
  | '\r' :: '\n' :: rest => ⟨rest, cursor.total, cursor.index + 2, cursor.line + 1, 0⟩
  | c :: rest => ⟨rest, cursor.total, cursor.index + c.utf8Size, cursor.line + 1, 0⟩
  | [] => cursor

def startsWith (cursor : Cursor) (c : Char) : Bool := cursor.rest.head? == some c

def atBreak (cursor : Cursor) : Bool := cursor.rest.head?.any isBreak

def atBlank (cursor : Cursor) : Bool := cursor.rest.head?.any isBlank

def atEnd (cursor : Cursor) : Bool := cursor.rest.isEmpty

def endsWordAt (cursor : Cursor) (ahead : Nat) : Bool :=
  match (cursor.rest.drop ahead).head? with
  | none => true
  | some c => isBlank c || isBreak c

/-- Whether three equal characters stand alone at the start of a line. -/
def atMarker (cursor : Cursor) (c : Char) : Bool :=
  cursor.column == 0 && cursor.rest.take 3 == [c, c, c] && cursor.endsWordAt 3

def atDocumentMarker (cursor : Cursor) : Bool := cursor.atMarker '-' || cursor.atMarker '.'

def skip (cursor : Cursor) (kind : Char → Bool) : Cursor :=
  cursor.steps (cursor.rest.takeWhile kind).length

def skipToLineEnd (cursor : Cursor) : Cursor := cursor.skip fun c => !isBreak c

/-- The character that a line break is kept as. -/
def keptBreak (cursor : Cursor) : List Char :=
  match cursor.rest with
  | [] => []
  | c :: _ => if c == lineSeparator || c == paragraphSeparator then [c] else ['\n']

/-- The cursor behind blanks and a comment, if nothing else is left of the line; a line break is
passed over as well. -/
def skipRestOfLine? (cursor : Cursor) : Option Cursor :=
  let cursor := cursor.skip isBlank
  let cursor := if cursor.startsWith '#' then cursor.skipToLineEnd else cursor
  if cursor.atEnd then some cursor
  else if cursor.atBreak then some cursor.stepLine
  else none

end Cursor

end TypedRoutes.Yaml

import TypedRoutes.Text.Hexadecimal

/-!
Blanks, comments, keys and strings of a TOML text. Every reader takes what it reads off the front
of a text and gives back the rest. Carriage returns are met only in front of line feeds.
-/

set_option autoImplicit false
set_option relaxedAutoImplicit false

namespace TypedRoutes.Toml

def apostrophe : Char := Char.ofNat 0x27

def isBlank (c : Char) : Bool := c == ' ' || c == '\t'

def isBreak (c : Char) : Bool := c == '\n' || c == '\r'

/-- Whether a character may stand in a comment or in a string on one line. -/
def isLineChar (c : Char) : Bool := c == '\t' || (0x20 ≤ c.toNat && c.toNat ≠ 0x7F)

def isBlockChar (c : Char) : Bool := isLineChar c || isBreak c

def isBareChar (c : Char) : Bool := c.isAlphanum || c == '_' || c == '-'

def hasWholeLineEnds : List Char → Bool
  | [] => true
  | '\r' :: '\n' :: rest => hasWholeLineEnds rest
  | c :: rest => c != '\r' && hasWholeLineEnds rest

def skipBlanks (text : List Char) : List Char := text.dropWhile isBlank

/-- The text behind blanks, line ends and comments. -/
def skipSpace (inComment : Bool) : List Char → List Char
  | [] => []
  | c :: rest =>
    if isBreak c then skipSpace false rest
    else if inComment then (if isLineChar c then skipSpace true rest else c :: rest)
    else if isBlank c then skipSpace false rest
    else if c = '#' then skipSpace true rest
    else c :: rest

/-- The text behind a line end, if one stands at the front. -/
def dropBreak : List Char → List Char
  | '\n' :: rest => rest
  | '\r' :: '\n' :: rest => rest
  | text => text

/-- The text behind blanks, a comment and the end of the line; none if there is anything else. -/
def endLine? (text : List Char) : Option (List Char) :=
  let text := skipBlanks text
  let text := if text.head? = some '#' then text.dropWhile isLineChar else text
  match text with
  | [] => some []
  | '\n' :: rest => some rest
  | '\r' :: '\n' :: rest => some rest
  | _ => none

def simpleEscape? (c : Char) : Option Char :=
  match c with
  | 'b' => some (Char.ofNat 0x08)
  | 't' => some '\t'
  | 'n' => some '\n'
  | 'f' => some (Char.ofNat 0x0C)
  | 'r' => some '\r'
  | 'e' => some (Char.ofNat 0x1B)
  | '"' => some '"'
  | '\\' => some '\\'
  | _ => none

/-- The number of hexadecimal digits behind the letter of an escape. -/
def escapeDigits? (c : Char) : Option Nat :=
  match c with
  | 'x' => some 2
  | 'u' => some 4
  | 'U' => some 8
  | _ => none

def escape? : List Char → Option (Char × List Char)
  | [] => none
  | c :: rest =>
    match escapeDigits? c with
    | some count => Text.takeHexCharacter? count rest
    | none => (simpleEscape? c).map fun plain => (plain, rest)

private theorem length_lt_of_escape? {text rest : List Char} {c : Char}
    (read : escape? text = some (c, rest)) : rest.length < text.length := by
  cases text with
  | nil => simp [escape?] at read
  | cons letter text =>
    simp only [escape?] at read
    split at read
    · simp only [Text.takeHexCharacter?, Option.bind_eq_bind, Option.bind_eq_some_iff] at read
      obtain ⟨_, _, _, _, taken⟩ := read
      split at taken
      · simp only [Option.some.injEq, Prod.mk.injEq] at taken
        obtain ⟨_, rfl⟩ := taken
        simp only [List.length_drop, List.length_cons]
        omega
      · simp at taken
    · simp only [Option.map_eq_some_iff, Prod.mk.injEq] at read
      obtain ⟨_, _, _, rfl⟩ := read
      simp

def follow (c : Char) (read : List Char × List Char) : List Char × List Char :=
  (c :: read.1, read.2)

/-- Reads a string behind its double quote, up to the next one that is not escaped. -/
def basicText? : List Char → Option (List Char × List Char)
  | [] => none
  | c :: rest =>
    if c = '"' then some ([], rest)
    else if c = '\\' then
      match _read : escape? rest with
      | some (c, after) => (basicText? after).map (follow c)
      | none => none
    else if isLineChar c then (basicText? rest).map (follow c)
    else none
termination_by text => text.length
decreasing_by
  · have := length_lt_of_escape? _read
    simp only [List.length_cons]
    omega
  · simp

/-- Reads a literal string behind its apostrophe, up to the next one. -/
def literalText? : List Char → Option (List Char × List Char)
  | [] => none
  | c :: rest =>
    if c = apostrophe then some ([], rest)
    else if isLineChar c then (literalText? rest).map (follow c)
    else none

/-- Reads the end of a string over several lines: three quotes, before which one or two more
belong to the string. -/
def blockEnd? (quote : Char) (text : List Char) : Option (List Char × List Char) :=
  let quotes := (text.takeWhile (· == quote)).length
  if quotes < 3 then none
  else
    let count := min quotes 5
    some (List.replicate (count - 3) quote, text.drop count)

/-- The text behind an escaped line end and all blanks and line ends that follow it. -/
def skipJoint? (text : List Char) : Option (List Char) :=
  if (text.dropWhile isBlank).head?.any isBreak then
    some (text.dropWhile fun c => isBlank c || isBreak c)
  else none

private theorem length_le_of_skipJoint? {text rest : List Char}
    (skipped : skipJoint? text = some rest) :
    rest.length ≤ text.length := by
  simp only [skipJoint?] at skipped
  split at skipped
  · simp only [Option.some.injEq] at skipped
    subst skipped
    exact (List.dropWhile_sublist _).length_le
  · simp at skipped

/-- Reads a string over several lines behind its three double quotes. -/
def basicBlock? : List Char → Option (List Char × List Char)
  | [] => none
  | c :: rest =>
    match blockEnd? '"' (c :: rest) with
    | some read => some read
    | none =>
      if c = '\\' then
        match _skipped : skipJoint? rest, _read : escape? rest with
        | some after, _ => basicBlock? after
        | none, some (c, after) => (basicBlock? after).map (follow c)
        | none, none => none
      else if isBlockChar c then (basicBlock? rest).map (follow c)
      else none
termination_by text => text.length
decreasing_by
  · have := length_le_of_skipJoint? _skipped
    simp only [List.length_cons]
    omega
  · have := length_lt_of_escape? _read
    simp only [List.length_cons]
    omega
  · simp

/-- Reads a literal string over several lines behind its three apostrophes. -/
def literalBlock? : List Char → Option (List Char × List Char)
  | [] => none
  | c :: rest =>
    match blockEnd? apostrophe (c :: rest) with
    | some read => some read
    | none => if isBlockChar c then (literalBlock? rest).map (follow c) else none

def simpleKey? : List Char → Option (String × List Char)
  | [] => none
  | c :: rest =>
    if c = '"' then (basicText? rest).map fun read => (String.ofList read.1, read.2)
    else if c = apostrophe then (literalText? rest).map fun read => (String.ofList read.1, read.2)
    else if isBareChar c then
      some (String.ofList ((c :: rest).takeWhile isBareChar), (c :: rest).dropWhile isBareChar)
    else none

/-- Reads a key of one or more parts between dots; the number limits the parts. -/
def path? : Nat → List Char → Option (List String × List Char)
  | 0, _ => none
  | parts + 1, text => do
    let (key, rest) ← simpleKey? text
    match skipBlanks rest with
    | '.' :: more =>
      let (path, rest) ← path? parts (skipBlanks more)
      some (key :: path, rest)
    | rest => some ([key], rest)

def text? (text : List Char) : Option (String × List Char) :=
  (if text.take 3 = ['"', '"', '"'] then basicBlock? (dropBreak (text.drop 3))
  else if text.take 3 = [apostrophe, apostrophe, apostrophe] then
    literalBlock? (dropBreak (text.drop 3))
  else if text.head? = some '"' then basicText? text.tail
  else if text.head? = some apostrophe then literalText? text.tail
  else none).map fun read => (String.ofList read.1, read.2)

end TypedRoutes.Toml

import TypedRoutes.Json.Basic
import TypedRoutes.Text.Quoted

/-!
JSON texts: the compact form without blanks, and the pretty form with two spaces per level.
-/

set_option autoImplicit false
set_option relaxedAutoImplicit false

namespace TypedRoutes.Json

def escapeChar (c : Char) : List Char :=
  if c = '"' then ['\\', '"']
  else if c = '\\' then ['\\', '\\']
  else if c = '\n' then ['\\', 'n']
  else if c = '\r' then ['\\', 'r']
  else if c = '\t' then ['\\', 't']
  else if c.toNat = 0x08 then ['\\', 'b']
  else if c.toNat = 0x0C then ['\\', 'f']
  else if c.toNat < 0x20 then '\\' :: 'u' :: Text.hexQuad c.toNat
  else [c]

def stringChars (text : String) : List Char :=
  '"' :: (text.toList.flatMap escapeChar ++ ['"'])

def Number.text : Number → String
  | .integer value => toString value
  | .double value => value.text

mutual

def compactChars : Json → List Char
  | .null => ['n', 'u', 'l', 'l']
  | .bool true => ['t', 'r', 'u', 'e']
  | .bool false => ['f', 'a', 'l', 's', 'e']
  | .number value => value.text.toList
  | .string value => stringChars value
  | .array items => '[' :: (compactItems items ++ [']'])
  | .object fields => '{' :: (compactFields fields ++ ['}'])

def compactItems : List Json → List Char
  | [] => []
  | [item] => item.compactChars
  | item :: next :: rest => item.compactChars ++ ',' :: compactItems (next :: rest)

def compactFields : List (String × Json) → List Char
  | [] => []
  | [(key, value)] => stringChars key ++ ':' :: value.compactChars
  | (key, value) :: next :: rest =>
    stringChars key ++ ':' :: (value.compactChars ++ ',' :: compactFields (next :: rest))

end

def newLine (level : Nat) : List Char := '\n' :: List.replicate (2 * level) ' '

mutual

/-- The pretty text of a value whose first line stands at a nesting level. -/
def prettyChars (level : Nat) : Json → List Char
  | .null => ['n', 'u', 'l', 'l']
  | .bool true => ['t', 'r', 'u', 'e']
  | .bool false => ['f', 'a', 'l', 's', 'e']
  | .number value => value.text.toList
  | .string value => stringChars value
  | .array [] => ['[', ']']
  | .array (item :: rest) =>
    '[' :: (prettyItems (level + 1) (item :: rest) ++ newLine level ++ [']'])
  | .object [] => ['{', '}']
  | .object (field :: rest) =>
    '{' :: (prettyFields (level + 1) (field :: rest) ++ newLine level ++ ['}'])

def prettyItems (level : Nat) : List Json → List Char
  | [] => []
  | [item] => newLine level ++ item.prettyChars level
  | item :: next :: rest =>
    newLine level ++ (item.prettyChars level ++ ',' :: prettyItems level (next :: rest))

def prettyFields (level : Nat) : List (String × Json) → List Char
  | [] => []
  | [(key, value)] => newLine level ++ (stringChars key ++ ':' :: ' ' :: value.prettyChars level)
  | (key, value) :: next :: rest =>
    newLine level ++ (stringChars key ++ ':' :: ' ' ::
      (value.prettyChars level ++ ',' :: prettyFields level (next :: rest)))

end

def compact (value : Json) : String := String.ofList value.compactChars

def pretty (value : Json) : String := String.ofList (value.prettyChars 0)

end TypedRoutes.Json

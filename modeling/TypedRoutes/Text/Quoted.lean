import TypedRoutes.Text.Hexadecimal

/-!
Names and string literals of declaration files: which words may stand bare, and how any other text
is written between double quotes.
-/

set_option autoImplicit false
set_option relaxedAutoImplicit false

namespace TypedRoutes.Text

/-- A bare name starts with an ASCII letter, an underscore or a dollar sign. -/
def isNameStart (c : Char) : Bool := c.isAlpha || c == '_' || c == '$'

/-- A bare name goes on with ASCII letters, ASCII digits, underscores and dollar signs. -/
def isNameRest (c : Char) : Bool := c.isAlphanum || c == '_' || c == '$'

def isIdentifier (name : String) : Bool :=
  match name.toList with
  | [] => false
  | c :: rest => isNameStart c && rest.all isNameRest

/-- The control characters of Unicode: `U+0000` to `U+001F` and `U+007F` to `U+009F`. -/
def isControl (c : Char) : Bool := c.toNat < 0x20 || (0x7F ≤ c.toNat && c.toNat < 0xA0)

def escapeInLiteral (c : Char) : List Char :=
  if c = '"' then ['\\', '"']
  else if c = '\\' then ['\\', '\\']
  else if c = '\n' then ['\\', 'n']
  else if c = '\r' then ['\\', 'r']
  else if c = '\t' then ['\\', 't']
  else if isControl c then '\\' :: 'u' :: hexQuad c.toNat
  else [c]

def quoteChars (text : List Char) : List Char :=
  '"' :: (text.flatMap escapeInLiteral ++ ['"'])

def quote (text : String) : String := String.ofList (quoteChars text.toList)

/-- A property name: bare where that is possible, quoted otherwise. -/
def propertyName (name : String) : String := if isIdentifier name then name else quote name

end TypedRoutes.Text

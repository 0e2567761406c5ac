import TypedRoutes.OpenApi.PathItem
import TypedRoutes.Text.Lowercase

/-!
What is made of a path template: the path in the notation of Express, and the id of an operation
that has none.
-/

set_option autoImplicit false
set_option relaxedAutoImplicit false

namespace TypedRoutes.Route

/--
Writes parameters in braces behind a colon instead. `name` holds what has been read of a parameter,
the last character first. A parameter has at least one character, and an opening brace that is
never closed is plain text.
-/
def expressChars (name : Option (List Char)) : List Char → List Char
  | [] =>
    match name with
    | none => []
    | some read => '{' :: read.reverse
  | c :: rest =>
    match name with
    | none => if c = '{' then expressChars (some []) rest else c :: expressChars none rest
    | some read =>
      if c = '}' then
        (if read.isEmpty then ['{', '}'] else ':' :: read.reverse) ++ expressChars none rest
      else expressChars (some (c :: read)) rest

def expressPath (template : String) : String := String.ofList (expressChars none template.toList)

/-- The form of an operation id, or of the name of a path, under which it is looked up. -/
def lookupKey (name : String) : String := Text.lowercase name

/-- ASCII letters, ASCII digits and the underscore. -/
def isWordChar (c : Char) : Bool := c.isAlphanum || c == '_'

mutual

/-- Cuts the longest run of characters of a kind out of a text wherever one begins. -/
def cutRuns (kind : Char → Bool) : List Char → List Char
  | [] => []
  | c :: rest => if kind c then cutRun kind rest else c :: cutRuns kind rest

/-- Cuts out the rest of a run that has begun, and the runs behind it. -/
def cutRun (kind : Char → Bool) : List Char → List Char
  | [] => []
  | c :: rest => if kind c then cutRun kind rest else c :: cutRuns kind rest

end

/-- A word with its first character in upper case. Only letters of ASCII have a capital here. -/
def capitalize : List Char → List Char
  | [] => []
  | c :: rest => c.toUpper :: rest

/-- The id of an operation without one: the method and what the template is without the runs of
characters that belong to no word, with a capital at the front. -/
def synthesizeId (method : OpenApi.Method) (template : String) : String :=
  -- what is left is ASCII, so there is no letter whose capital is missed
  method.key ++ String.ofList (capitalize (cutRuns (fun c => !isWordChar c) template.toList))

end TypedRoutes.Route

import TypedRoutes.Text.Quoted

/-!
Type expressions of declaration files and their text.
-/

set_option autoImplicit false
set_option relaxedAutoImplicit false

namespace TypedRoutes.Declaration

/-- The built-in types that are written as one word. -/
inductive Keyword where
  | any
  | unknown
  | never
  | void
  | undefined
  | null
  | boolean
  | number
  | string
  | object
  deriving DecidableEq, Repr

namespace Keyword

def all : List Keyword :=
  [.any, .unknown, .never, .void, .undefined, .null, .boolean, .number, .string, .object]

def word : Keyword → String
  | .any => "any"
  | .unknown => "unknown"
  | .never => "never"
  | .void => "void"
  | .undefined => "undefined"
  | .null => "null"
  | .boolean => "boolean"
  | .number => "number"
  | .string => "string"
  | .object => "object"

def ofWord? (word : String) : Option Keyword := all.find? fun keyword => keyword.word == word

end Keyword

mutual

/--
A type expression: a dotted reference with type arguments, a union in its given order, a keyword,
a string literal type, an array, an inline object type, or text that is carried along unread.
-/
inductive TypeExpr where
  | reference (path : List String) (args : List TypeExpr)
  | union (members : List TypeExpr)
  | keyword (word : Keyword)
  | stringLiteral (value : String)
  | array (element : TypeExpr)
  | object (members : List Property)
  | raw (text : String)

/-- A property of an interface or an inline object type; the comment stands at its line's end. -/
structure Property where
  name : String
  optional : Bool := false
  type : TypeExpr
  comment : Option String := none

end

deriving instance Repr for TypeExpr, Property

instance : Inhabited TypeExpr := ⟨.keyword .never⟩

mutual

/-- Whether two types are built alike, comments of inline members included. -/
def TypeExpr.beq : TypeExpr → TypeExpr → Bool
  | .reference path args, .reference path' args' => path == path' && TypeExpr.beqAll args args'
  | .union members, .union members' => TypeExpr.beqAll members members'
  | .keyword word, .keyword word' => word == word'
  | .stringLiteral value, .stringLiteral value' => value == value'
  | .array element, .array element' => element.beq element'
  | .object members, .object members' => Property.beqAll members members'
  | .raw text, .raw text' => text == text'
  | _, _ => false

def TypeExpr.beqAll : List TypeExpr → List TypeExpr → Bool
  | [], [] => true
  | type :: rest, type' :: rest' => type.beq type' && TypeExpr.beqAll rest rest'
  | _, _ => false

def Property.beqAll : List Property → List Property → Bool
  | [], [] => true
  | ⟨name, optional, type, comment⟩ :: rest, ⟨name', optional', type', comment'⟩ :: rest' =>
    name == name' && optional == optional' && type.beq type' && comment == comment' &&
      Property.beqAll rest rest'
  | _, _ => false

end

instance : BEq TypeExpr := ⟨TypeExpr.beq⟩

instance : BEq Property := ⟨fun member member' => Property.beqAll [member] [member']⟩

/-- The parts of a text between the occurrences of a character; one more than there are. -/
def splitAt (separator : Char) : List Char → List (List Char)
  | [] => [[]]
  | c :: rest =>
    if c = separator then [] :: splitAt separator rest
    else match splitAt separator rest with
      | [] => [[c]]
      | part :: more => (c :: part) :: more

def segments (name : String) : List String := (splitAt '.' name.toList).map String.ofList

namespace TypeExpr

def named (path : List String) : TypeExpr := .reference path []

def qualified (name : String) : TypeExpr := .reference (segments name) []

def generic (name : String) (args : List TypeExpr) : TypeExpr := .reference (segments name) args

/-- Whether the text of a type shows a bar between members. -/
def isWideUnion : TypeExpr → Bool
  | .union (_ :: _ :: _) => true
  | _ => false

def isKeyword (keyword : Keyword) : TypeExpr → Bool
  | .keyword word => word == keyword
  | _ => false

theorem beq_keyword (type : TypeExpr) (keyword : Keyword) :
    (type == .keyword keyword) = type.isKeyword keyword := by
  cases type <;> rfl

end TypeExpr

mutual

/--
The characters of a type. A union without members is the type without values, and a union inside
an array stands in parentheses, because brackets bind tighter than bars.
-/
def TypeExpr.chars : TypeExpr → List Char
  | .reference path [] => List.intercalate ['.'] (path.map String.toList)
  | .reference path (arg :: args) =>
    List.intercalate ['.'] (path.map String.toList) ++
      '<' :: (TypeExpr.joinedChars [',', ' '] (arg :: args) ++ ['>'])
  | .union [] => Keyword.never.word.toList
  | .union (member :: members) => TypeExpr.joinedChars [' ', '|', ' '] (member :: members)
  | .keyword word => word.word.toList
  | .stringLiteral value => Text.quoteChars value.toList
  | .array element =>
    if element.isWideUnion then '(' :: (element.chars ++ [')', '[', ']'])
    else element.chars ++ ['[', ']']
  | .object [] => ['{', '}']
  | .object (member :: members) => '{' :: ' ' :: (Property.memberChars (member :: members) ++ ['}'])
  | .raw text => text.toList

def TypeExpr.joinedChars (separator : List Char) : List TypeExpr → List Char
  | [] => []
  | [type] => type.chars
  | type :: next :: rest =>
    type.chars ++ (separator ++ TypeExpr.joinedChars separator (next :: rest))

def Property.memberChars : List Property → List Char
  | [] => []
  | member :: rest => member.signatureChars ++ ';' :: ' ' :: Property.memberChars rest

/-- Name, optional mark and type of a property, without the closing semicolon. -/
def Property.signatureChars : Property → List Char
  | ⟨name, optional, type, _⟩ =>
    (Text.propertyName name).toList ++
      ((if optional then ['?'] else []) ++ ':' :: ' ' :: type.chars)

end

def TypeExpr.print (type : TypeExpr) : String := String.ofList type.chars

/-- The text of a property without the closing semicolon. -/
def Property.signature (property : Property) : String := String.ofList property.signatureChars

end TypedRoutes.Declaration

/-!
The options of the generator, and the configuration that they resolve to. A rejected name never
stops the generator: it is reported, and no alias is emitted.
-/

set_option autoImplicit false
set_option relaxedAutoImplicit false

namespace TypedRoutes.Options

/-- The type that stands where a path declares nothing. -/
inductive Placeholder where
  | any
  | unknown
  deriving DecidableEq, Repr

/-- How the paths of several schemas are put together: later ones over earlier ones, or the last
ones alone. -/
inductive Selection where
  | merge
  | last
  deriving DecidableEq, Repr

def Placeholder.all : List Placeholder := [.any, .unknown]

def Placeholder.word : Placeholder → String
  | .any => "any"
  | .unknown => "unknown"

def Selection.all : List Selection := [.merge, .last]

def Selection.word : Selection → String
  | .merge => "merge"
  | .last => "last"

def Placeholder.ofWord? (word : String) : Option Placeholder :=
  Placeholder.all.find? fun placeholder => placeholder.word == word

def Selection.ofWord? (word : String) : Option Selection :=
  Selection.all.find? fun selection => selection.word == word

/-- The placeholder that a word names, or what is wrong with the word. -/
def Placeholder.parse (word : String) : Except String Placeholder :=
  match Placeholder.ofWord? word with
  | some placeholder => .ok placeholder
  | none =>
    .error ("unknown placeholder type '" ++ word ++ "', expected 'any' or 'unknown'")

/-- The selection that a word names, or what is wrong with the word. -/
def Selection.parse (word : String) : Except String Selection :=
  match Selection.ofWord? word with
  | some selection => .ok selection
  | none => .error ("unknown schema selection '" ++ word ++ "', expected 'merge' or 'last'")

/-- The alias for route handlers: switched on under the default name or off, or named. -/
inductive RouteTypeName where
  | toggle (on : Bool)
  | name (text : String)
  deriving DecidableEq, Repr

/-- The name of the alias when it is switched on without a name. -/
def defaultAlias : String := "Route"

def descriptorName : String := "Config"

def handlerName : String := "RequestHandler"

inductive NameError where
  | notTypeName (name : String)
  | taken (name : String)
  deriving DecidableEq, Repr

def NameError.message : NameError → String
  | .notTypeName name => "'" ++ name ++ "' is not a valid type name"
  | .taken name => "'" ++ name ++ "' is already used by the generated declarations"

def isTypeName (name : String) : Bool :=
  name.toList.head?.any (fun c => c.isAlpha || c == '_' || c == '$') &&
    name.toList.tail.all fun c => c.isAlphanum || c == '_' || c == '$'

namespace RouteTypeName

/-- Checks that a name, if there is one, can stand beside the generated declarations. -/
def check : RouteTypeName → Except NameError Unit
  | .toggle _ => .ok ()
  | .name text =>
    if text = "" then .ok ()
    else if !isTypeName text then .error (.notTypeName text)
    else if text = descriptorName ∨ text = handlerName then .error (.taken text)
    else .ok ()

/-- The name of the alias; none if it is switched off, empty or rejected. -/
def resolve : RouteTypeName → Option String
  | .toggle false => none
  | .toggle true => some defaultAlias
  | .name text =>
    if text = "" then none
    else match check (.name text) with
      | .ok () => some text
      | .error _ => none

end RouteTypeName

/-- The options as they are written; what is not written takes its default. -/
structure OptionSet where
  enabled : Option Bool := none
  placeholder : Option Placeholder := none
  routeTypeName : Option RouteTypeName := none
  selection : Option Selection := none
  deriving DecidableEq, Repr

/-- What a host hands over: a switch, or options. -/
inductive PluginOption where
  | toggle (on : Bool)
  | options (set : OptionSet)
  deriving DecidableEq, Repr

structure Config where
  placeholder : Placeholder := .unknown
  routeTypeName : Option String := none
  selection : Selection := .merge
  deriving DecidableEq, Repr

/-- Checks the name of the alias, if one is written. -/
def OptionSet.check (set : OptionSet) : Except NameError Unit :=
  match set.routeTypeName.map RouteTypeName.check with
  | some (.error error) => .error error
  | _ => .ok ()

/-- The configuration that options stand for; none if they switch the generator off. -/
def OptionSet.resolve (set : OptionSet) : Option Config :=
  if set.enabled = some false then none
  else some {
    placeholder := set.placeholder.getD .unknown
    routeTypeName := set.routeTypeName.bind RouteTypeName.resolve
    selection := set.selection.getD .merge }

namespace PluginOption

/-- Checks the name of the alias, if one is written; options of a file have a check of their own. -/
def check : PluginOption → Except NameError Unit
  | .options { routeTypeName := some name, .. } => name.check
  | _ => .ok ()

/-- The configuration that an option stands for; none if it switches the generator off. -/
def resolve : PluginOption → Option Config
  | .toggle false => none
  | .toggle true => some {}
  | .options set => set.resolve

end PluginOption

/-- The configuration of an option that may be absent; an absent one switches the generator off. -/
def Config.ofOption? (option : Option PluginOption) : Option Config :=
  option.bind PluginOption.resolve

end TypedRoutes.Options

import TypedRoutes.OpenApi.Decoding
import TypedRoutes.Text.Lines
import TypedRoutes.Yaml.Decoding

/-!
OpenAPI documents from texts in either format, and what is told about a text that is no document.
-/

set_option autoImplicit false
set_option relaxedAutoImplicit false

namespace TypedRoutes.OpenApi

inductive Format where
  | json
  | yaml
  deriving DecidableEq, Repr

/-- The name of the file that a path leads to; none if the path ends in no name. -/
def fileName? (path : String) : Option String :=
  let parts := (path.splitOn "/").filter fun part => part != "" && part != "."
  match parts.getLast? with
  | some ".." => none
  | last => last

/-- What follows the last point in a file name, if something stands before the point. -/
def extension? (path : String) : Option String :=
  (fileName? path).bind fun name =>
    match name.toList.reverse.span fun c => c != '.' with
    | (_, []) => none
    | (_, [_]) => none
    | (read, _ :: _ :: _) => some (String.ofList read.reverse)

/-- The format of the document at a path: YAML by its extension in any case, JSON otherwise. -/
def Format.ofPath (path : String) : Format :=
  match (extension? path).map fun extension => extension.map Char.toLower with
  | some "yaml" => .yaml
  | some "yml" => .yaml
  | _ => .json

/-- Why a text is no document; a break of the JSON grammar points at a byte of the text. -/
inductive LoadError where
  | json (cause : Json.ReadError) (offset : Option Nat)
  | yaml
  deriving DecidableEq, Repr

def LoadError.message : LoadError → String
  | .json _ _ => "failed to parse JSON document"
  | .yaml => "failed to parse YAML document"

def LoadError.code : LoadError → String
  | .json _ _ => "routegen::json"
  | .yaml => "routegen::yaml"

def LoadError.ofJson (text : String) (cause : Json.ReadError) : LoadError :=
  .json cause (match cause with
    | .malformed error =>
      (Text.lineColumnOffset? .wraps text error.position.line.toUInt64
        error.position.column.toUInt64).join
    | .mismatch _ => none)

/-- What a document asks of a YAML text: objects down to the operations. -/
def Document.expected : Yaml.Expected :=
  .object fun field => if field = pathsField then .objectOrNull pathsEntry else .any
where
  pathsEntry (key : String) : Yaml.Expected :=
    if Paths.isExtensionKey key then .any else .object itemEntry
  itemEntry (key : String) : Yaml.Expected :=
    if (Method.ofKey? key).isSome then .object fun _ => .any else .any

def Document.ofYaml? (text : String) : Option Document := do
  let value ← Yaml.parse? Document.expected text
  (Document.ofJson value).toOption

def Schema.parse (format : Format) (id text : String) : Except LoadError Schema :=
  match format with
  | .json => ((Document.parse text).mapError (LoadError.ofJson text)).map (Schema.mk id)
  | .yaml =>
    match Document.ofYaml? text with
    | some document => .ok ⟨id, document⟩
    | none => .error .yaml

end TypedRoutes.OpenApi

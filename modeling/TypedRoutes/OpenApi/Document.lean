import TypedRoutes.OpenApi.Paths

/-!
OpenAPI documents: the paths, and every other root field as it is. The place of the paths among
the root fields is kept.
-/

set_option autoImplicit false
set_option relaxedAutoImplicit false

namespace TypedRoutes.OpenApi

def pathsField : String := "paths"

/-- A document. Of the root field `paths` only the place counts; its value is in `paths`. -/
structure Document where
  fields : OrderedMap Json := .empty
  paths : Paths := {}

namespace Document

def field? (document : Document) (key : String) : Option Json :=
  if key = pathsField then none else document.fields.get? key

/-- The JSON form of a document; paths without a place come last, unless they have no entry. -/
def toJson (document : Document) : Json :=
  let fields := document.fields.entries.map fun field =>
    if field.1 = pathsField then (field.1, document.paths.toJson) else field
  if document.fields.contains pathsField || document.paths.entries.entries.isEmpty then
    .object fields
  else .object (fields ++ [(pathsField, document.paths.toJson)])

def mapPaths (f : Paths → Paths) (document : Document) : Document :=
  { document with paths := f document.paths }

end Document

/-- A document under the name of the file or address that it came from. -/
structure Schema where
  id : String
  content : Document

/-- The paths of an input, which may have no schema; paths without a path item do not count. -/
def inputPaths? (input : Option Schema) : Option Paths :=
  (input.map fun schema => schema.content.paths).filter fun paths => !paths.isEmpty

end TypedRoutes.OpenApi

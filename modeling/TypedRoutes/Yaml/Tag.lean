/-!
The tags of YAML nodes. A tag may be written with escaped bytes, so it need not be a text: it is
kept as its bytes.
-/

set_option autoImplicit false
set_option relaxedAutoImplicit false

namespace TypedRoutes.Yaml

abbrev Tag := List UInt8

namespace Tag

def ofText (text : String) : Tag := text.toUTF8.data.toList

/-- A tag as it is kept: it ends in front of its first zero byte. -/
def untilZero (bytes : List UInt8) : Tag := bytes.takeWhile fun byte => byte != 0

def localMark : UInt8 := '!'.toUInt8

def standard (name : String) : Tag := ofText ("tag:yaml.org,2002:" ++ name)

def isLocal (tag : Tag) : Bool := tag.head? == some localMark

/-- Whether a tag names a type of its own: it is local, and what follows the mark is a text. -/
def isForeign (tag : Tag) : Bool :=
  tag.isLocal && (String.fromUTF8? tag.tail.toByteArray).isSome

end Tag

end TypedRoutes.Yaml

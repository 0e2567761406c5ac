/-!
Indented text: fragments of code, and the buffer that they are written into line by line.
-/

set_option autoImplicit false
set_option relaxedAutoImplicit false

namespace TypedRoutes.Declaration

structure Indent where
  width : Nat := 4
  deriving DecidableEq, Repr

/-- One level of indentation; a width other than 2, 4 and 8 counts as 4. -/
def Indent.unit (indent : Indent) : String :=
  if indent.width = 2 then "  "
  else if indent.width = 8 then "        "
  else "    "

/-- A line, or lines that are indented between a header and, if given, a closing line. -/
inductive Fragment where
  | line (text : String)
  | block (header : String) (body : List Fragment) (close : Option String)

instance : Inhabited Fragment := ⟨.line ""⟩

/-- A text under construction and the level at which its next line starts. -/
structure Buffer where
  indent : Indent := {}
  level : Nat := 0
  text : String := ""

namespace Buffer

def indentation (unit : String) : Nat → String
  | 0 => ""
  | level + 1 => unit ++ indentation unit level

def pushLine (buffer : Buffer) (text : String) : Buffer :=
  { buffer with text := buffer.text ++ indentation buffer.indent.unit buffer.level ++ text ++ "\n" }

def deepen (buffer : Buffer) : Buffer := { buffer with level := buffer.level + 1 }

/-- Goes one level out, but never further than the margin. -/
def retreat (buffer : Buffer) : Buffer := { buffer with level := buffer.level - 1 }

mutual

def apply (buffer : Buffer) : Fragment → Buffer
  | .line text => buffer.pushLine text
  | .block header body close =>
    let buffer := ((buffer.pushLine header).deepen.applyAll body).retreat
    match close with
    | none => buffer
    | some text => buffer.pushLine text

def applyAll (buffer : Buffer) : List Fragment → Buffer
  | [] => buffer
  | fragment :: rest => (buffer.apply fragment).applyAll rest

end

end Buffer

end TypedRoutes.Declaration

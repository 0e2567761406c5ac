import TypedRoutes.Declaration.Layout
import TypedRoutes.Declaration.Tree
import TypedRoutes.Text.Lines

/-!
The text of declaration trees: one line per member, no blank lines between declarations, and empty
bodies as an opening and a closing line.
-/

set_option autoImplicit false
set_option relaxedAutoImplicit false

namespace TypedRoutes.Declaration

def exportWord (exported : Bool) : String := if exported then "export " else ""

def namespaceWords (declared exported : Bool) : String :=
  exportWord exported ++ (if declared then "declare " else "")

def lineComment : Option String → String
  | none => ""
  | some text => " // " ++ text

def Property.line (property : Property) : String :=
  property.signature ++ ";" ++ lineComment property.comment

def TypeAlias.line (decl : TypeAlias) : String :=
  exportWord decl.exported ++ "type " ++ decl.name ++ " = " ++ decl.type.print ++ ";" ++
    lineComment decl.comment

def Import.line (decl : Import) : String :=
  let kind := if decl.typeOnly then "type " else ""
  let names := "\x7b " ++ ", ".intercalate decl.named ++ " \x7d"
  let source := " from " ++ Text.quote decl.source ++ ";"
  match decl.default, decl.named with
  | some default, [] => "import " ++ kind ++ default ++ source
  | some default, _ :: _ => "import " ++ kind ++ default ++ ", " ++ names ++ source
  | none, _ :: _ => "import " ++ kind ++ names ++ source
  | none, [] => "import " ++ Text.quote decl.source ++ ";"

mutual

def Statement.fragments : Statement → List Fragment
  | .importDecl decl => [.line decl.line]
  | .namespaceDecl ⟨name, declared, exported, none⟩ =>
    [.line (namespaceWords declared exported ++ "namespace " ++ name ++ ";")]
  | .namespaceDecl ⟨name, declared, exported, some body⟩ =>
    [.block (namespaceWords declared exported ++ "namespace " ++ name ++ " \x7b")
      (Statement.allFragments body) (some "\x7d")]
  | .interfaceDecl decl =>
    [.block (exportWord decl.exported ++ "interface " ++ decl.name ++ " \x7b")
      (decl.members.map fun member => .line member.line) (some "\x7d")]
  | .aliasDecl decl => [.line decl.line]
  | .verbatim text => (Text.lines text).map .line

def Statement.allFragments : List Statement → List Fragment
  | [] => []
  | statement :: rest => statement.fragments ++ Statement.allFragments rest

end

def Buffer.emit (buffer : Buffer) (statement : Statement) : Buffer :=
  buffer.applyAll statement.fragments

def Buffer.emitAll (buffer : Buffer) (statements : List Statement) : Buffer :=
  buffer.applyAll (Statement.allFragments statements)

def Tree.printWith (indent : Indent) (tree : Tree) : String :=
  (Buffer.emitAll { indent := indent } tree.statements).text

def Tree.print (tree : Tree) : String := tree.printWith {}

end TypedRoutes.Declaration

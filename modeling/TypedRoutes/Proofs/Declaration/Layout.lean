import TypedRoutes.Declaration.Printer

/-!
The lines of a printed text. Whatever is written into a buffer leaves its level as it was and adds
whole lines behind its text, each indented by its own depth and the level of the buffer. So
statements are printed one after another, and the body of a namespace stands one level further in.
-/

set_option autoImplicit false
set_option relaxedAutoImplicit false

namespace TypedRoutes.Declaration

/-- A line that is not yet indented: the number of levels before its text. -/
structure Line where
  level : Nat
  text : String
  deriving DecidableEq, Repr

namespace Line

def indentBy (levels : Nat) (line : Line) : Line := ⟨line.level + levels, line.text⟩

/-- A line as it is written: the unit of indentation for each level, the text and a line feed. -/
def print (unit : String) (line : Line) : String :=
  String.join (List.replicate line.level unit) ++ line.text ++ "\n"

@[simp] theorem indentBy_zero : indentBy 0 = id := rfl

theorem indentBy_indentBy (inner outer : Nat) (line : Line) :
    (line.indentBy inner).indentBy outer = line.indentBy (outer + inner) := by
  have levels : line.level + inner + outer = line.level + (outer + inner) := by omega
  simp only [indentBy, levels]

end Line

/-- The text of lines that are written one after another. -/
def printLines (unit : String) (lines : List Line) : String :=
  String.join (lines.map (Line.print unit))

@[simp] theorem printLines_nil (unit : String) : printLines unit [] = "" := rfl

private theorem printLines_append (unit : String) (first second : List Line) :
    printLines unit (first ++ second) = printLines unit first ++ printLines unit second := by
  rw [printLines, List.map_append, String.join_append]
  rfl

mutual

/-- The lines of a fragment, header, body and close in this order. -/
def Fragment.lines : Fragment → List Line
  | .line text => [⟨0, text⟩]
  | .block header body close =>
    ⟨0, header⟩ :: ((Fragment.allLines body).map (Line.indentBy 1) ++
      (close.map (Line.mk 0)).toList)

def Fragment.allLines : List Fragment → List Line
  | [] => []
  | fragment :: rest => fragment.lines ++ Fragment.allLines rest

end

theorem Fragment.allLines_append (first second : List Fragment) :
    Fragment.allLines (first ++ second) = Fragment.allLines first ++ Fragment.allLines second := by
  induction first with
  | nil => rfl
  | cons fragment rest ih => simp only [List.cons_append, allLines, ih, List.append_assoc]

namespace Buffer

/-- A buffer with lines behind its text, indented by its level. -/
def write (buffer : Buffer) (lines : List Line) : Buffer :=
  { buffer with
    text := buffer.text ++
      printLines buffer.indent.unit (lines.map (Line.indentBy buffer.level)) }

private theorem indentation_eq (unit : String) (level : Nat) :
    indentation unit level = String.join (List.replicate level unit) := by
  induction level with
  | zero => rfl
  | succ level ih => rw [indentation, ih, List.replicate_succ, String.join_cons]

private theorem pushLine_eq_write (buffer : Buffer) (text : String) :
    buffer.pushLine text = buffer.write [⟨0, text⟩] := by
  simp [pushLine, write, printLines, Line.print, Line.indentBy, indentation_eq,
    String.append_assoc]

private theorem write_nil (buffer : Buffer) : buffer.write [] = buffer := by
  simp [write]

private theorem write_append (buffer : Buffer) (first second : List Line) :
    buffer.write (first ++ second) = (buffer.write first).write second := by
  simp only [write, List.map_append, printLines_append, String.append_assoc]

private theorem retreat_write_deepen (buffer : Buffer) (lines : List Line) :
    (buffer.deepen.write lines).retreat = buffer.write (lines.map (Line.indentBy 1)) := by
  have deeper : Line.indentBy (buffer.level + 1) = Line.indentBy buffer.level ∘ Line.indentBy 1 :=
    funext fun line => (Line.indentBy_indentBy 1 buffer.level line).symm
  simp only [write, deepen, retreat, Nat.add_sub_cancel, deeper, List.map_map]

-- The two functions call each other, and so do the inductions over a fragment and over a body.
mutual

private theorem apply_eq_write (buffer : Buffer) :
    ∀ fragment : Fragment, buffer.apply fragment = buffer.write fragment.lines
  | .line text => pushLine_eq_write buffer text
  | .block header body close => by
    have inside := applyAll_eq_write (buffer.pushLine header).deepen body
    have opened : buffer.apply (.block header body none) =
        buffer.write (⟨0, header⟩ :: (Fragment.allLines body).map (Line.indentBy 1)) := by
      rw [apply, inside, retreat_write_deepen, pushLine_eq_write, ← write_append]
      rfl
    cases close with
    | none =>
      rw [opened]
      simp [Fragment.lines]
    | some text =>
      have closed : buffer.apply (.block header body (some text)) =
          (buffer.apply (.block header body none)).pushLine text := by
        simp only [apply]
      rw [closed, opened, pushLine_eq_write, ← write_append]
      rfl

private theorem applyAll_eq_write (buffer : Buffer) :
    ∀ fragments : List Fragment, buffer.applyAll fragments = buffer.write (Fragment.allLines fragments)
  | [] => (write_nil buffer).symm
  | fragment :: rest => by
    rw [applyAll, apply_eq_write buffer fragment, applyAll_eq_write _ rest, ← write_append]
    rfl

end

end Buffer

def Statement.allLines (statements : List Statement) : List Line :=
  Fragment.allLines (Statement.allFragments statements)

namespace Statement

theorem allLines_cons (statement : Statement) (rest : List Statement) :
    allLines (statement :: rest) = allLines [statement] ++ allLines rest := by
  simp [allLines, allFragments, Fragment.allLines_append]

theorem allLines_append (first second : List Statement) :
    allLines (first ++ second) = allLines first ++ allLines second := by
  induction first with
  | nil => rfl
  | cons statement rest ih =>
    rw [List.cons_append, allLines_cons, ih, allLines_cons statement rest, List.append_assoc]

private theorem allLines_singleton (statement : Statement) :
    allLines [statement] = Fragment.allLines statement.fragments := by
  simp [allLines, allFragments]

theorem allLines_eq_flatMap (statements : List Statement) :
    allLines statements = statements.flatMap fun statement => allLines [statement] := by
  induction statements with
  | nil => rfl
  | cons statement rest ih => rw [allLines_cons, ih, List.flatMap_cons]

end Statement

def Namespace.opening (decl : Namespace) : String :=
  namespaceWords decl.declared decl.exported ++ "namespace " ++ decl.name ++ " \x7b"

theorem Namespace.allLines_of_body {decl : Namespace} {body : List Statement}
    (hbody : decl.body = some body) :
    Statement.allLines [.namespaceDecl decl] =
      ⟨0, decl.opening⟩ :: ((Statement.allLines body).map (Line.indentBy 1) ++ [⟨0, "\x7d"⟩]) := by
  obtain ⟨name, declared, exported, body'⟩ := decl
  obtain rfl : body' = some body := hbody
  simp [Statement.allLines, Statement.allFragments, Statement.fragments, Fragment.allLines,
    Fragment.lines, Namespace.opening]

def Interface.opening (decl : Interface) : String :=
  exportWord decl.exported ++ "interface " ++ decl.name ++ " \x7b"

private theorem Fragment.allLines_map_line {α : Type} (text : α → String) (items : List α) :
    Fragment.allLines (items.map fun item => .line (text item)) =
      items.map fun item => ⟨0, text item⟩ := by
  induction items with
  | nil => rfl
  | cons item rest ih =>
    rw [List.map_cons, Fragment.allLines, ih]
    rfl

theorem Interface.allLines_eq (decl : Interface) :
    Statement.allLines [.interfaceDecl decl] =
      ⟨0, decl.opening⟩ :: (decl.members.map (fun member => ⟨1, member.line⟩) ++ [⟨0, "\x7d"⟩]) := by
  have members := Fragment.allLines_map_line Property.line decl.members
  simp [Statement.allLines, Statement.allFragments, Statement.fragments, Fragment.allLines,
    Fragment.lines, Interface.opening, members, Line.indentBy]

theorem Tree.printWith_eq (indent : Indent) (tree : Tree) :
    tree.printWith indent = printLines indent.unit (Statement.allLines tree.statements) := by
  rw [Tree.printWith, Buffer.emitAll, Buffer.applyAll_eq_write]
  simp [Buffer.write, Statement.allLines]

namespace Buffer

private theorem text_write (buffer : Buffer) (lines : List Line) :
    (buffer.write lines).text = buffer.text ++ String.join (lines.map fun line =>
      String.join (List.replicate (buffer.level + line.level) buffer.indent.unit) ++
        line.text ++ "\n") := by
  have each : Line.print buffer.indent.unit ∘ Line.indentBy buffer.level = fun line =>
      String.join (List.replicate (buffer.level + line.level) buffer.indent.unit) ++
        line.text ++ "\n" := by
    funext line
    simp only [Function.comp, Line.print, Line.indentBy, Nat.add_comm]
  rw [write, printLines, List.map_map, each]

private theorem emit_eq_write (buffer : Buffer) (statement : Statement) :
    buffer.emit statement = buffer.write (Statement.allLines [statement]) := by
  rw [emit, applyAll_eq_write, Statement.allLines_singleton]

private theorem emitAll_eq_write (buffer : Buffer) (statements : List Statement) :
    buffer.emitAll statements = buffer.write (Statement.allLines statements) :=
  applyAll_eq_write buffer (Statement.allFragments statements)

private theorem emitAll_eq_foldl (buffer : Buffer) (statements : List Statement) :
    buffer.emitAll statements = statements.foldl emit buffer := by
  induction statements generalizing buffer with
  | nil => rfl
  | cons statement rest ih =>
    have step : buffer.emitAll (statement :: rest) = (buffer.emit statement).emitAll rest := by
      rw [emitAll_eq_write, Statement.allLines_cons, write_append, emit_eq_write, emitAll_eq_write]
    rw [step, ih, List.foldl_cons]

end Buffer

private theorem Tree.printWith_append (indent : Indent) (first second : List Statement) :
    Tree.printWith indent ⟨first ++ second⟩ =
      Tree.printWith indent ⟨first⟩ ++ Tree.printWith indent ⟨second⟩ := by
  rw [printWith_eq, printWith_eq, printWith_eq, Statement.allLines_append, printLines_append]

/--
Fragments leave the level and the unit of a buffer as they were, and add one line for each header,
line and close in their order, indented by the level of the buffer and by the blocks around it. So
statements can be written one by one, texts of trees are joined as the trees are, and what stands
in the body of a namespace is laid out one level further in.
-/
theorem Buffer.applyAll_lays_out_lines (buffer : Buffer) :
    (∀ fragments : List Fragment,
      (buffer.applyAll fragments).level = buffer.level ∧
      (buffer.applyAll fragments).indent = buffer.indent ∧
      (buffer.applyAll fragments).text = buffer.text ++
        String.join ((Fragment.allLines fragments).map fun line =>
          String.join (List.replicate (buffer.level + line.level) buffer.indent.unit) ++
            line.text ++ "\n")) ∧
    (∀ statements : List Statement,
      buffer.emitAll statements = statements.foldl Buffer.emit buffer) ∧
    (∀ first second : List Statement,
      Tree.printWith buffer.indent ⟨first ++ second⟩ =
        Tree.printWith buffer.indent ⟨first⟩ ++ Tree.printWith buffer.indent ⟨second⟩) ∧
    ∀ (name : String) (declared exported : Bool) (body : List Statement),
      buffer.emit (.namespaceDecl ⟨name, declared, exported, some body⟩) =
        buffer.write (⟨0, Namespace.opening ⟨name, declared, exported, some body⟩⟩ ::
          ((body.flatMap fun statement => Fragment.allLines statement.fragments).map
            (Line.indentBy 1) ++ [⟨0, "\x7d"⟩])) := by
  refine ⟨fun fragments => ?_, buffer.emitAll_eq_foldl, Tree.printWith_append buffer.indent, ?_⟩
  · rw [applyAll_eq_write]
    exact ⟨rfl, rfl, buffer.text_write _⟩
  · intro name declared exported body
    have lines : (body.flatMap fun statement => Fragment.allLines statement.fragments) =
        Statement.allLines body := by
      rw [Statement.allLines_eq_flatMap]
      simp only [Statement.allLines_singleton]
    rw [emit_eq_write, Namespace.allLines_of_body rfl, lines]

end TypedRoutes.Declaration

import TypedRoutes.Text.Lines

/-!
Reports as sequences of output calls, and their text on a terminal: results go to one stream,
notices to another, so that they never mix.
-/

set_option autoImplicit false
set_option relaxedAutoImplicit false

namespace TypedRoutes.Report

inductive Line where
  | title (text : String)
  | heading (name : String)
  | keyValue (key value : String)
  | item (text : String)
  | error (message : String)
  | warning (message : String)
  | note (message : String)
  | text (text : String)
  | newline
  deriving DecidableEq, Repr

/-- What is written to the two streams of a terminal. -/
structure Terminal where
  results : String := ""
  notices : String := ""
  deriving DecidableEq, Repr

namespace Terminal

def result (terminal : Terminal) (text : String) : Terminal :=
  { terminal with results := terminal.results ++ text ++ "\n" }

def notice (terminal : Terminal) (text : String) : Terminal :=
  { terminal with notices := terminal.notices ++ text ++ "\n" }

def rule (text : String) : String :=
  String.ofList (List.replicate (Text.utf8Length text.toList) '=')

def write (terminal : Terminal) : Line → Terminal
  | .title text => (terminal.result text).result (rule text)
  | .heading name => terminal.result (name ++ ":")
  | .keyValue key value => terminal.result ("  " ++ key ++ ": " ++ value)
  | .item text => terminal.result ("  - " ++ text)
  | .error message => terminal.notice ("error: " ++ message)
  | .warning message => terminal.notice ("warning: " ++ message)
  | .note message => terminal.notice ("info: " ++ message)
  | .text text => terminal.result text
  | .newline => terminal.result ""

/-- What is written to the streams of one terminal, and then what is written to those of another. -/
def append (first second : Terminal) : Terminal :=
  ⟨first.results ++ second.results, first.notices ++ second.notices⟩

end Terminal

def render (lines : List Line) : Terminal := lines.foldl Terminal.write {}

end TypedRoutes.Report

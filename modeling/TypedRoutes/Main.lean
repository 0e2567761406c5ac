import TypedRoutes.CommandLine.Run

/-!
The program on the files of the machine.
-/

set_option autoImplicit false
set_option relaxedAutoImplicit false

open TypedRoutes.CommandLine

/-- The text of a file, unless it cannot be read. -/
def readFile? (path : String) : IO (Option String) := do
  try
    return some (← IO.FS.readFile path)
  catch _ => return none

def writeFile (path text : String) : IO Bool := do
  try
    IO.FS.writeFile path text
    return true
  catch _ => return false

def machineFiles : FileAccess IO where
  isFile path := do return (← readFile? path).isSome
  read := readFile?
  write := writeFile

def main (arguments : List String) : IO UInt32 := do
  let outcome ← run machineFiles arguments
  IO.print outcome.terminal.results
  IO.eprint outcome.terminal.notices
  return outcome.status.toUInt32

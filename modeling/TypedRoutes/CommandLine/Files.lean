import TypedRoutes.Report.Output

/-!
The files that the program works on: what it asks of them, and a directory of files in memory.
-/

set_option autoImplicit false
set_option relaxedAutoImplicit false

namespace TypedRoutes.CommandLine

/-- What the program asks of files: whether a path leads to one, its text, and to write a text.
Reading gives none and writing says no where it fails. -/
structure FileAccess (m : Type → Type) where
  isFile : String → m Bool
  read : String → m (Option String)
  write : String → String → m Bool

/-- A file that every machine has: one that is always empty, and the two streams of the terminal. -/
inductive Device where
  | null
  | results
  | notices
  deriving DecidableEq, Repr

namespace Device

/-- The device of a name. The input of a run is empty, as the null device is. -/
def ofName? : String → Option Device
  | "null" => some .null
  | "stdin" => some .null
  | "stdout" => some .results
  | "stderr" => some .notices
  | _ => none

/-- The device that an absolute path leads to. Nothing lies below a device, so its name is the last
of the steps. -/
def locate? (path : String) : Option Device :=
  let steps := path.splitOn "/"
  match steps.filter fun step => step != "" && step != "." with
  | ["dev", name] => if steps.getLast? = some name then ofName? name else none
  | _ => none

/-- The text of a device. The streams can only be written. -/
def read? : Device → Option String
  | .null => some ""
  | .results => none
  | .notices => none

def write (device : Device) (text : String) (streams : Report.Terminal) : Report.Terminal :=
  match device with
  | .null => streams
  | .results => { streams with results := streams.results ++ text }
  | .notices => { streams with notices := streams.notices ++ text }

end Device

/-- A place as seen from the directory: so many directories up, and from there along steps down. -/
structure Place where
  up : Nat := 0
  down : List String := []
  deriving DecidableEq, Repr

/-- A directory of files. Each file is named by its place; all but the last of the steps that lead
to it are directories. The directories around it hold nothing else at first. What has been written
to the terminal under the name of a device is kept beside the files. -/
structure Files where
  entries : List (Place × String) := []
  streams : Report.Terminal := {}

namespace Files

/-- The steps of a path that lead somewhere. -/
def steps (path : String) : List String :=
  (path.splitOn "/").filter fun step => step != "" && step != "."

def ofList (named : List (String × String)) : Files :=
  { entries := named.map fun file => ({ down := steps file.1 }, file.2) }

def isDirectory (files : Files) (place : Place) : Bool :=
  place.down.isEmpty ||
    files.entries.any fun entry =>
      entry.1.up == place.up && place.down.isPrefixOf entry.1.down &&
        place.down.length < entry.1.down.length

def maxStepSize : Nat := 255

def maxPathSize : Nat := 4095

def go? (files : Files) (place : Place) (step : String) : Option Place :=
  if !files.isDirectory place then none
  else if step = "" ∨ step = "." then some place
  else if step = ".." then
    some (if place.down.isEmpty then { up := place.up + 1 }
      else { place with down := place.down.dropLast })
  else if step.utf8ByteSize ≤ maxStepSize then some { place with down := place.down ++ [step] }
  else none

def locate? (files : Files) (path : String) : Option Place :=
  if path.startsWith "/" ∨ maxPathSize < path.utf8ByteSize then none
  else (path.splitOn "/").foldlM files.go? {}

def read? (files : Files) (path : String) : Option String :=
  match Device.locate? path with
  | some device => device.read?
  | none => (files.locate? path).bind fun place => List.lookup place files.entries

def write? (files : Files) (path text : String) : Option Files :=
  match Device.locate? path with
  | some device => some { files with streams := device.write text files.streams }
  | none =>
    (files.locate? path).bind fun place =>
      if files.isDirectory place then none
      else some { files with
        entries := (place, text) :: files.entries.filter fun entry => entry.1 != place }

def access : FileAccess (StateM Files) where
  isFile path := do return ((← get).read? path).isSome
  read path := do return (← get).read? path
  write path text := do
    match (← get).write? path text with
    | some files =>
      set files
      return true
    | none => return false

end Files

end TypedRoutes.CommandLine

import SchemaAtlas.Console
import SchemaAtlas.Log.State
import SchemaAtlas.Path
import SchemaAtlas.Settings.Environment
import SchemaAtlas.Text.Quoted

/-!
# What a program runs on

A `Host` gives a program the file tree, the terminal, its surroundings, the clock and the log.
Programs are written for any host, so that they run on the machine as well as in memory, where what
they do can be stated and proved.
-/

namespace SchemaAtlas

/-- What is found at a path. -/
inductive FileKind where
  | file
  | directory
  deriving DecidableEq

/-- What goes wrong with a file. -/
inductive FileProblem where
  | missing
  | denied
  | alreadyThere
  | notDirectory
  | isDirectory
  | other
  deriving DecidableEq

namespace FileProblem

/-- The number that the system gives the problem. -/
def number : FileProblem → Nat
  | missing => 2
  | denied => 13
  | alreadyThere => 17
  | notDirectory => 20
  | isDirectory => 21
  | other => 5

/-- Every problem that has a number of its own. -/
def all : List FileProblem :=
  [missing, denied, alreadyThere, notDirectory, isDirectory]

/-- The problem with the given number. -/
def ofNumber (n : Nat) : FileProblem :=
  (all.find? fun problem => problem.number == n).getD other

/-- The words that the system has for the problem. -/
def reason : FileProblem → String
  | missing => "No such file or directory"
  | denied => "Permission denied"
  | alreadyThere => "File exists"
  | notDirectory => "Not a directory"
  | isDirectory => "Is a directory"
  | other => "Input/output error"

end FileProblem

/-- A problem with the file at a path. -/
structure FileFault where
  problem : FileProblem
  path : Path
  deriving DecidableEq

/-- The wording of a problem with a file. -/
def FileFault.text (fault : FileFault) : String :=
  "[Errno " ++ toString fault.problem.number ++ "] " ++ fault.problem.reason ++ ": " ++
    Text.quoted fault.path.text

/-- What a program runs on. -/
class Host (m : Type → Type) where
  /-- What is at a path, if anything can be found there. -/
  kind? : Path → m (Option FileKind)
  read : Path → m (Except FileFault (List UInt8))
  /-- Writes a text in place of what the file held. -/
  write : Path → String → m (Except FileFault Unit)
  /-- Opens a file to write at its end. -/
  openLog : Path → m (Except FileFault Unit)
  /-- Makes one directory below an existing one. -/
  makeDirectory : Path → m (Except FileFault Unit)
  workingDirectory : m Path
  surroundings : m Surroundings
  /-- The settings file of the user. -/
  userFile : m Path
  /-- The day, as year, month and day. -/
  today : m String
  /-- The day and the time. -/
  time : m String
  /-- A name for a run that no other run has. -/
  newRun : m String
  /-- Seconds from some start. -/
  clock : m Binary64
  /-- The terminal can redraw a line. -/
  isInteractive : m Bool
  /-- Shows an item on the console. -/
  present : ConsoleItem → m (Except MarkupFault Unit)
  /-- Writes to the standard output. -/
  print : String → m Unit
  /-- Writes a line to the error stream. -/
  complain : String → m Unit
  logState : m LogState
  setLogState : LogState → m Unit
  deliver : Delivery → m Unit

namespace Host

variable {m : Type → Type} [Monad m] [Host m]

/-- A directory is at the path. -/
def isDirectory (path : Path) : m Bool := do
  return (← kind? path) == some .directory

/-- A file is at the path. -/
def isFile (path : Path) : m Bool := do
  return (← kind? path) == some .file

/-- A record is written to the log. -/
def record (r : LogRecord) : m Unit := do
  let state ← logState
  let time ← time
  (state.linesOf time r).forM deliver

/-- A message that is no record is written to the log. -/
def relay (level : LogLevel) (message : String) : m Unit := do
  let state ← logState
  let time ← time
  (state.linesOfMessage time level message).forM deliver

/-- The terminal is suppressed or released. -/
def suppress (on : Bool) : m Unit := do
  setLogState { ← logState with isSuppressed := on }

/-- Makes a directory and those above it that are missing; `depth` bounds their number. -/
def makeDirectories (path : Path) : Nat → m (Except FileFault Unit)
  | 0 => return .error ⟨.missing, path⟩
  | depth + 1 => do
    match ← makeDirectory path with
    | .ok () => return .ok ()
    | .error fault =>
      if fault.problem = .missing ∧ path.parent ≠ path then
        match ← makeDirectories path.parent depth with
        | .ok () =>
          match ← makeDirectory path with
          | .ok () => return .ok ()
          | .error fault => return if ← isDirectory path then .ok () else .error fault
        | .error fault => return .error fault
      else return if ← isDirectory path then .ok () else .error fault

/-- Makes the directory that is to hold a file. -/
def makeRoomFor (path : Path) : m (Except FileFault Unit) :=
  makeDirectories path.parent (path.names.length + 1)

/-- Writes a text to a file and makes the directories above it. -/
def writeWithin (path : Path) (text : String) : m (Except FileFault Unit) := do
  match ← makeRoomFor path with
  | .ok () => write path text
  | .error fault => return .error fault

end Host

end SchemaAtlas

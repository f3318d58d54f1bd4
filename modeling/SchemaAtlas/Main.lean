import SchemaAtlas.Command.Execution
import SchemaAtlas.Terminal
import Std.Time

/-!
# The program on the machine

`Local` is the host that acts on the machine itself, and `main` runs the program on it.
-/

namespace SchemaAtlas

/-- The machine itself, with the state of the log. -/
abbrev Local := StateT LogState IO

namespace Local

/-- The number that the system gives an error. -/
def errorNumber : IO.Error → Nat
  | .alreadyExists _ code _ => code.toNat
  | .otherError code _ => code.toNat
  | .unsupportedOperation code _ => code.toNat
  | .illegalOperation code _ => code.toNat
  | .noFileOrDirectory _ code _ => code.toNat
  | .invalidArgument _ code _ => code.toNat
  | .permissionDenied _ code _ => code.toNat
  | .inappropriateType _ code _ => code.toNat
  | .noSuchThing _ code _ => code.toNat
  | _ => FileProblem.other.number

/-- The result of an action on a file, or what went wrong with it. -/
def attempt {α : Type} (path : Path) (action : IO α) : Local (Except FileFault α) := do
  match ← action.toBaseIO with
  | .ok a => return .ok a
  | .error e => return .error ⟨.ofNumber (errorNumber e), path⟩

/-- What is at a path.  A directory can be opened but not read. -/
def kind? (path : Path) : Local (Option FileKind) := do
  match ← attempt path (IO.FS.Handle.mk path.text .read) with
  | .error ⟨.denied, _⟩ => return some .file
  | .error _ => return none
  | .ok handle =>
    match ← attempt path (handle.read 1) with
    | .error ⟨.isDirectory, _⟩ => return some .directory
    | _ => return some .file

/-- The names of the variables that hold settings. -/
def variableNames : List String :=
  sectionNames.flatMap fun name =>
    let whole := (variableStart ++ name).toUpper
    whole :: (entryNames name).map fun entry => whole ++ "__" ++ entry.toUpper

/-- The variables that hold settings and are set. -/
def environment : Local (List (String × String)) :=
  variableNames.filterMapM fun name => do
    return (← IO.getEnv name).map fun value => (name, value)

/-- The home directories of users, by their names. -/
def usersHomes : Local (List (String × String)) := do
  match ← attempt ⟨.slash, ["etc", "passwd"]⟩ (IO.FS.lines "/etc/passwd") with
  | .error _ => return []
  | .ok lines =>
    return lines.toList.filterMap fun line =>
      match line.splitOn ":" with
      | [name, _, _, _, _, home, _] => some (name, home)
      | _ => none

/-- The home directories that are known. -/
def homes : Local Homes := do
  let users ← usersHomes
  return { own := ← IO.getEnv "HOME", ofUser? := fun name => users.lookup name }

/-- The settings file of the user. -/
def userFile : Local Path := do
  match (Path.ofText "~/.config/schemaplane/config.yaml").expandHome (← homes) with
  | .ok path => return path
  | .error _ => throw (IO.userError Command.Interruption.homeless.text)

/-- The time, in the given form. -/
def now (form : String) : Local String := do
  return (← Std.Time.PlainDateTime.now).format form

/-- Twelve digits at random. -/
def newRun : Local String := do
  let octets ← IO.getRandomBytes 6
  return .ofList (Text.hex 12 (octets.toList.foldl (fun n octet => 256 * n + octet.toNat) 0))

/-- A line of the log goes to its destination. -/
def deliver (d : Delivery) : Local Unit :=
  match d.destination with
  | .stdout => IO.println d.line
  | .stderr => IO.eprintln d.line
  | .file path => do
    let handle ← IO.FS.Handle.mk path .append
    handle.putStrLn d.line

instance : Host Local where
  kind? := kind?
  read path := do
    return (← attempt path (IO.FS.readBinFile path.text)).map ByteArray.toList
  write path text := attempt path (IO.FS.writeFile path.text text)
  openLog path := attempt path do
    let _ ← IO.FS.Handle.mk path.text .append
  makeDirectory path := attempt path (IO.FS.createDir path.text)
  workingDirectory := return .ofText (← IO.currentDir).toString
  surroundings := return { homes := ← homes, environment := ← environment }
  userFile := userFile
  today := now "uuuu-MM-dd"
  time := now "uuuu-MM-dd HH:mm:ss"
  newRun := newRun
  clock := return .ofDecimal false (← IO.monoNanosNow) (-9)
  isInteractive := do (← IO.getStderr).isTty
  present item := do
    match item.plainText with
    | .error fault => return .error fault
    | .ok text => return .ok (← IO.eprintln text)
  print text := IO.print text
  complain line := IO.eprintln line
  logState := get
  setLogState := set
  deliver := deliver

end Local

end SchemaAtlas

open SchemaAtlas in
/-- Runs the command that the arguments name. -/
def main (arguments : List String) : IO UInt32 := do
  let (ending, _) ← (Command.execute arguments : Local Command.Ending).run {}
  match ending with
  | .finished status => return status.toUInt32
  | .interrupted cause =>
    IO.eprintln ("Error: " ++ cause.text)
    return 1

import SchemaAtlas.Host.FileTree
import SchemaAtlas.Terminal

/-!
# A host in memory

A `Machine` is a host whose file tree, surroundings and clock are values, and which keeps all that
programs show, print and log.
-/

namespace SchemaAtlas

/-- A host in memory. -/
structure Machine where
  tree : FileTree := {}
  workingDirectory : Path := ⟨.slash, []⟩
  surroundings : Surroundings := { homes := { own := "/home/u" } }
  userFile : Path := ⟨.slash, ["global.yaml"]⟩
  today : String := "2000-01-01"
  time : String := "2000-01-01 00:00:00"
  run : String := "000000000000"
  /-- What the clock shows next; then it shows zero. -/
  readings : List Binary64 := []
  isInteractive : Bool := false
  log : LogState := {}
  /-- How the console reads marks. -/
  markup : Markup := .nested
  console : List ConsoleItem := []
  output : String := ""
  errors : List String := []

namespace Machine

/-- The path from the root. -/
def absolute (machine : Machine) (path : Path) : Path :=
  machine.workingDirectory.join path

/-- A change of the tree that may fail; the fault names the path as it was given. -/
def change (path : Path) (f : FileTree → Path → Except FileFault FileTree) :
    StateM Machine (Except FileFault Unit) := do
  let machine ← get
  match f machine.tree (machine.absolute path) with
  | .ok tree =>
    set { machine with tree := tree }
    return .ok ()
  | .error fault => return .error ⟨fault.problem, path⟩

/-- What the clock shows. -/
def readClock : StateM Machine Binary64 := do
  let machine ← get
  match machine.readings with
  | [] => return ⟨0⟩
  | reading :: more =>
    set { machine with readings := more }
    return reading

/-- A line of the log goes to its destination. -/
def deliver (d : Delivery) : StateM Machine Unit :=
  match d.destination with
  | .stdout => modify fun machine => { machine with output := machine.output ++ d.line ++ "\n" }
  | .stderr => modify fun machine => { machine with errors := machine.errors ++ [d.line] }
  | .file path => do
    let append := fun (content : List UInt8) => content ++ (d.line ++ "\n").toUTF8.toList
    let _ ← change (Path.ofText path) fun tree path => tree.write path append

/-- The machine with one more item on its console. -/
def showing (machine : Machine) (item : ConsoleItem) : Machine :=
  { machine with console := machine.console ++ [item] }

/-- An item is shown, unless its marks do not fit together. -/
def present (item : ConsoleItem) : StateM Machine (Except MarkupFault Unit) := do
  let machine ← get
  match machine.markup.fault? item with
  | some fault => return .error fault
  | none =>
    set (machine.showing item)
    return .ok ()

instance : Host (StateM Machine) where
  kind? path := do
    let machine ← get
    return (machine.tree.find? (machine.absolute path)).map FileTree.kindOf
  read path := do
    let machine ← get
    return (machine.tree.read (machine.absolute path)).mapError fun fault => ⟨fault.problem, path⟩
  write path text := change path fun tree path => tree.write path fun _ => text.toUTF8.toList
  openLog path := change path fun tree path => tree.write path id
  makeDirectory path := change path FileTree.makeDirectory
  workingDirectory := return (← get).workingDirectory
  surroundings := return (← get).surroundings
  userFile := return (← get).userFile
  today := return (← get).today
  time := return (← get).time
  newRun := return (← get).run
  clock := readClock
  isInteractive := return (← get).isInteractive
  present := present
  print text := modify fun machine => { machine with output := machine.output ++ text }
  complain line := modify fun machine => { machine with errors := machine.errors ++ [line] }
  logState := return (← get).log
  setLogState state := modify fun machine => { machine with log := state }
  deliver := deliver

end Machine

end SchemaAtlas

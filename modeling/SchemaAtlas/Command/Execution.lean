import SchemaAtlas.Command.Browse
import SchemaAtlas.Command.Document
import SchemaAtlas.Command.Generate
import SchemaAtlas.Command.SetUp
import SchemaAtlas.Command.Validate

/-!
# The program as a whole

`execute` runs the command that a command line names, tells the user about a line that cannot be
understood and about a failure, and ends with an exit status or an interruption.
-/

namespace SchemaAtlas.Command

variable {m : Type → Type} [Monad m] [Host m]

/-- The commands. -/
inductive CommandName where
  | setUp
  | browse
  | document
  | validate
  | generate
  deriving DecidableEq

namespace CommandName

/-- Every command. -/
def all : List CommandName :=
  [setUp, browse, document, validate, generate]

/-- The form of a command. -/
def form : CommandName → CommandForm
  | setUp => setUpForm
  | browse => browseForm
  | document => documentForm
  | validate => validateForm
  | generate => generateForm

/-- The command of the given name. -/
def ofText? (s : String) : Option CommandName :=
  all.find? fun command => command.form.name == s

/-- Runs a command. -/
def perform (command : CommandName) (arguments : Arguments) (verbose : Bool) : Program m Nat :=
  match command with
  | setUp => Command.setUp (.ofArguments arguments)
  | browse => Command.browse (.ofArguments arguments) verbose
  | document => Command.document (.ofArguments arguments) verbose
  | validate => Command.validate (.ofArguments arguments) verbose
  | generate => Command.generate (.ofArguments arguments) verbose

end CommandName

/-- The options in front of the name of a command. -/
def programOptions : List OptionSpelling :=
  [⟨"--version", "version", .flag true⟩, ⟨"-v", "verbose", .flag true⟩,
    ⟨"--verbose", "verbose", .flag true⟩]

/-- The usage of the program. -/
def programUsage : Usage where
  command := programName
  parts := "[OPTIONS] COMMAND [ARGS]..."

/-- How the program is used. -/
def programHelp : List String :=
  [programUsage.line, "", "Commands:"] ++
    CommandName.all.map fun command =>
      "  " ++ command.form.name ++ ": " ++ command.form.summary

/-- What the line that names the version says. -/
def versionLine : String :=
  programName ++ ", version " ++ programVersion

/-- What a command line asks for. -/
inductive Request where
  | help
  | version
  | run (command : CommandName) (rest : List String) (verbose : Bool)
  | misuse (fault : ArgumentFault)

/-- What is asked for besides commands, by the option that is given first. -/
def informationAsked? (arguments : Arguments) : Option Request :=
  arguments.options.findSome? fun o =>
    if o.1 == "help" then some .help else if o.1 == "version" then some .version else none

/-- The options in front of the name of a command. -/
def readProgramOptions (line : List String) : Except ArgumentFault Arguments :=
  readArguments (programOptions ++ [helpOption]) false line

/-- What a word that names no command asks for.  One that looks like an option is read as one. -/
def Request.ofUnknown (name : String) (rest : List String) : Request :=
  if name.startsWith "-" then
    match readProgramOptions (name :: rest) with
    | .error fault => .misuse fault
    | .ok arguments => (informationAsked? arguments).getD (.misuse (.unknownCommand name))
  else .misuse (.unknownCommand name)

/-- What a command line asks for. -/
def Request.ofLine (line : List String) : Request :=
  match readProgramOptions line with
  | .error fault => .misuse fault
  | .ok arguments =>
    match informationAsked? arguments with
    | some request => request
    | none =>
      match arguments.words with
      | [] => .misuse .missingCommand
      | name :: rest =>
        match CommandName.ofText? name with
        | some command => .run command rest (arguments.isSet "verbose")
        | none => .ofUnknown name rest

/-- The log that is in force until the settings have been read. -/
def firstLogSettings (verbose : Bool) : LogSettings where
  level := if verbose then .debug else .info

/-- The log starts for a new run. -/
def startLog (verbose : Bool) : m Unit := do
  let run ← Host.newRun
  Host.setLogState
    { (← Host.logState) with run := some run, settings := some (firstLogSettings verbose) }

/-- Prints lines. -/
def printLines (lines : List String) : m Unit :=
  lines.forM fun line => Host.print (line ++ "\n")

/-- Does what a command line asks for. -/
def Request.perform : Request → Program m Nat
  | .help => do
    printLines (m := m) programHelp
    return 0
  | .version => do
    Host.print (m := m) (versionLine ++ "\n")
    return 0
  | .misuse fault => throw (.misused programUsage fault)
  | .run command rest verbose => do
    startLog (m := m) verbose
    match ← command.form.read rest with
    | some arguments => command.perform arguments verbose
    | none =>
      printLines (m := m) command.form.help
      return 0

/-- How a program has ended. -/
inductive Ending where
  | finished (status : Nat)
  | interrupted (cause : Interruption)
  deriving DecidableEq

/-- The exit status. -/
def Ending.status : Ending → Nat
  | finished status => status
  | interrupted _ => 1

/-- What a user is told about a line that cannot be understood. -/
def misuseLines (usage : Usage) (fault : ArgumentFault) : List String :=
  (if fault.showsUsage then
    [usage.line, "Try '" ++ usage.command ++ " --help' for help.", ""]
  else []) ++ ["Error: " ++ fault.message]

/-- Tells a user why a program has stopped. -/
def Halt.report : Halt → m Ending
  | .misused usage fault => do
    (misuseLines usage fault).forM Host.complain
    return .finished 2
  | .failed message => do
    Host.complain ("Error: " ++ message)
    return .finished 1
  | .interrupted cause => return .interrupted cause

/-- Does what a command line asks for and reports how it ends.  An empty line shows how the program
is used. -/
def execute (line : List String) : m Ending := do
  if line.isEmpty then
    programHelp.forM Host.complain
    return .finished 2
  match ← (Request.ofLine line).perform.run with
  | .ok status => return .finished status
  | .error halt => halt.report

end SchemaAtlas.Command

import SchemaAtlas.Command.Program

/-!
# Forms of commands

A `CommandForm` lists the options of a command and says what its argument is.  `CommandForm.read`
takes a command line apart by the form and checks every value against the rule for it: first the
options in the order in which they are given, then the argument, and last that nothing is left over.
-/

namespace SchemaAtlas.Command

open Text

variable {m : Type → Type} [Monad m] [Host m]

/-- The name of the program. -/
def programName : String :=
  "spl"

/-- The version of the program. -/
def programVersion : String :=
  "0.1.0"

/-- What a value breaks of a rule, if anything, where `found` is what is at the value as a path. -/
def ValueRule.objection? (rule : ValueRule) (found : Option FileKind) (value : String) :
    Option String :=
  match rule, found with
  | .anything, _ => none
  | .file, some .directory => some ("File " ++ quoted value ++ " is a directory.")
  | .file, _ => none
  | .directory, some .file => some ("Directory " ++ quoted value ++ " is a file.")
  | .directory, _ => none
  | .existingDirectory, none => some ("Directory " ++ quoted value ++ " does not exist.")
  | .existingDirectory, some .file => some ("Directory " ++ quoted value ++ " is a file.")
  | .existingDirectory, some .directory => none
  | .oneOf choices, _ =>
    if choices.contains value then none
    else some (quoted value ++ " is not one of " ++ joined ", " (choices.map quoted) ++ ".")

/-- The argument of a command. -/
structure ArgumentPlace where
  /-- The name of the argument in usage lines. -/
  name : String
  rule : ValueRule

/-- What a command understands. -/
structure CommandForm where
  name : String
  summary : String
  options : List OptionSpelling
  argument : Option ArgumentPlace := none

/-- The option that asks how a command is used. -/
def helpOption : OptionSpelling :=
  ⟨"--help", "help", .flag true⟩

/-- The option that says where the schema is. -/
def schemaOption : OptionSpelling :=
  ⟨"--schema", "schema", .value .file⟩

/-- The option that asks for JSON. -/
def jsonOption : OptionSpelling :=
  ⟨"--json", "json", .flag true⟩

namespace CommandForm

/-- The usage of a command. -/
def usage (form : CommandForm) : Usage where
  command := programName ++ " " ++ form.name
  parts := "[OPTIONS]" ++
    match form.argument with
    | some argument => " [" ++ argument.name ++ "]"
    | none => ""

/-- How a command is used. -/
def help (form : CommandForm) : List String :=
  [form.usage.line, "", "  " ++ form.summary, "", "Options:"] ++
    (form.options.map fun o => "  " ++ o.spelling) ++ ["  " ++ helpOption.spelling]

/-- A value follows its rule, or the command is misused. -/
def checkValue (form : CommandForm) (rule : ValueRule) (place value : String) : Program m Unit := do
  let found ← match value with
    | "" => pure none
    | value => Host.kind? (m := m) (.ofText value)
  match rule.objection? found value with
  | some reason => throw (.misused form.usage (.invalidValue place reason))
  | none => return

/-- The value of an option follows its rule, or the command is misused. -/
def checkOption (form : CommandForm) : String × OptionValue → Program m Unit
  | (_, .flag _) => return
  | (name, .text value) =>
    match form.options.find? fun o => o.name == name with
    | some ⟨spelling, _, .value rule⟩ => checkValue form rule spelling value
    | _ => return

/-- The argument, of which there may be at most one, follows its rule, or the command is misused. -/
def checkWords (form : CommandForm) (words : List String) : Program m Unit := do
  match form.argument, words with
  | _, [] => return
  | none, words => throw (.misused form.usage (.unexpectedArguments words))
  | some argument, word :: rest =>
    checkValue form argument.rule ("[" ++ argument.name ++ "]") word
    if !rest.isEmpty then throw (.misused form.usage (.unexpectedArguments rest))

/-- The options and the argument on a command line; none if it asks how the command is used. -/
def read (form : CommandForm) (line : List String) : Program m (Option Arguments) := do
  let arguments ← Program.orHalt (.misused form.usage)
    (readArguments (form.options ++ [helpOption]) true line)
  if arguments.isSet helpOption.name then return none
  arguments.options.forM form.checkOption
  form.checkWords arguments.words
  return some arguments

end CommandForm

end SchemaAtlas.Command

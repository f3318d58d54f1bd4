import SchemaAtlas.Keyed
import SchemaAtlas.Text.Quoted
import SchemaAtlas.Text.Search
import SchemaAtlas.Text.Separated

/-!
# Arguments of commands

A command line consists of options and words.  `readArguments` tells them apart by the options that
a command has, and keeps the last value of an option that is given repeatedly.  An `ArgumentFault`
is what a user is told about a line that cannot be understood.
-/

namespace SchemaAtlas.Command

open Text

/-- What a given value has to be. -/
inductive ValueRule where
  | anything
  /-- A path at which there is no directory. -/
  | file
  /-- A path at which there is no file. -/
  | directory
  | existingDirectory
  | oneOf (choices : List String)
  deriving DecidableEq

/-- What an option is followed by. -/
inductive OptionKind where
  /-- Nothing; the option itself says yes or no. -/
  | flag (on : Bool)
  | value (rule : ValueRule)
  deriving DecidableEq

/-- One spelling of an option. -/
structure OptionSpelling where
  spelling : String
  /-- The name under which the option is kept. -/
  name : String
  kind : OptionKind
  deriving DecidableEq

/-- What an option is given as. -/
inductive OptionValue where
  | flag (on : Bool)
  | text (s : String)
  deriving DecidableEq

/-- What is wrong with a command line. -/
inductive ArgumentFault where
  | unknownOption (spelling : String)
  | missingValue (spelling : String)
  | needlessValue (spelling : String)
  | unexpectedArguments (arguments : List String)
  | invalidValue (place reason : String)
  | unknownCommand (name : String)
  | missingCommand
  deriving DecidableEq

namespace ArgumentFault

/-- The wording of a fault. -/
def message : ArgumentFault → String
  | unknownOption spelling => "No such option " ++ quoted spelling ++ "."
  | missingValue spelling => "Option " ++ quoted spelling ++ " requires an argument."
  | needlessValue spelling => "Option " ++ quoted spelling ++ " does not take a value."
  | unexpectedArguments [argument] => "Got unexpected extra argument (" ++ argument ++ ")"
  | unexpectedArguments arguments =>
    "Got unexpected extra arguments (" ++ joined " " arguments ++ ")"
  | invalidValue place reason => "Invalid value for '" ++ place ++ "': " ++ reason
  | unknownCommand name => "No such command " ++ quoted name ++ "."
  | missingCommand => "Missing command."

/-- The usage of the command is shown with the fault. -/
def showsUsage : ArgumentFault → Bool
  | missingValue _ => false
  | needlessValue _ => false
  | _ => true

end ArgumentFault

/-- The options and arguments of a command line. -/
structure Arguments where
  /-- The options in the order in which they are first given, each with its last value. -/
  options : Keyed OptionValue := []
  /-- What is no option. -/
  words : List String := []

namespace Arguments

/-- The option was given as a flag that says yes. -/
def isSet (arguments : Arguments) (name : String) : Bool :=
  arguments.options.get? name == some (.flag true)

/-- The value of an option. -/
def value? (arguments : Arguments) (name : String) : Option String :=
  match arguments.options.get? name with
  | some (.text s) => some s
  | _ => none

/-- The arguments with a further option in front. -/
def withOption (name : String) (value : OptionValue) (arguments : Arguments) : Arguments :=
  let later := (arguments.options.get? name).getD value
  { arguments with options := (name, later) :: arguments.options.filter fun o => o.1 != name }

/-- The arguments with a further word in front. -/
def withWord (word : String) (arguments : Arguments) : Arguments :=
  { arguments with words := word :: arguments.words }

end Arguments

/-- The option of the given spelling. -/
def optionOf? (spellings : List OptionSpelling) (spelling : String) : Option OptionSpelling :=
  spellings.find? fun o => o.spelling == spelling

/-- The flags of single letters behind one dash. -/
def letterFlags (spellings : List OptionSpelling) :
    List Char → Except ArgumentFault (List (String × OptionValue))
  | [] => .ok []
  | letter :: rest =>
    let spelling := String.ofList ['-', letter]
    match optionOf? spellings spelling with
    | some ⟨_, name, .flag on⟩ => do
      return (name, .flag on) :: (← letterFlags spellings rest)
    | _ => .error (.unknownOption spelling)

/-- What an argument is. -/
inductive ArgumentForm where
  /-- All that follows are words. -/
  | endOfOptions
  | word
  | letters (letters : List Char)
  /-- An option behind two dashes, perhaps with a value behind an equals sign. -/
  | long (spelling : String) (value : Option String)

/-- What an argument is, by its first characters. -/
def ArgumentForm.of (argument : String) : ArgumentForm :=
  match argument.toList with
  | ['-', '-'] => .endOfOptions
  | '-' :: '-' :: rest =>
    match cutFirst? '=' rest with
    | some (name, value) => .long (.ofList ('-' :: '-' :: name)) (some (.ofList value))
    | none => .long argument none
  | '-' :: letter :: rest => .letters (letter :: rest)
  | _ => .word

/-- The options and words of a command line.  With `mixed`, options may follow words. -/
def readArguments (spellings : List OptionSpelling) (mixed : Bool) :
    List String → Except ArgumentFault Arguments
  | [] => .ok {}
  | argument :: rest =>
    match ArgumentForm.of argument with
    | .endOfOptions => .ok { words := rest }
    | .word =>
      if mixed then (readArguments spellings mixed rest).map (Arguments.withWord argument)
      else .ok { words := argument :: rest }
    | .letters letters => do
      let flags ← letterFlags spellings letters
      let more ← readArguments spellings mixed rest
      return flags.foldr (fun flag arguments => arguments.withOption flag.1 flag.2) more
    | .long spelling value =>
      match optionOf? spellings spelling with
      | none => .error (.unknownOption spelling)
      | some option =>
        let kept := fun (value : OptionValue) => Arguments.withOption option.name value
        match option.kind, value with
        | .flag _, some _ => .error (.needlessValue spelling)
        | .flag on, none => (readArguments spellings mixed rest).map (kept (.flag on))
        | .value _, some value => (readArguments spellings mixed rest).map (kept (.text value))
        | .value _, none =>
          match rest with
          | [] => .error (.missingValue spelling)
          | value :: rest => (readArguments spellings mixed rest).map (kept (.text value))

end SchemaAtlas.Command

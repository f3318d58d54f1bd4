import SchemaAtlas.Data.JsonText
import SchemaAtlas.Settings.Basic
import SchemaAtlas.Text.Blank

/-!
# Log records

A `LogRecord` is an event with fields.  It is written either as a JSON object, `jsonLine`, or as a
line for people, `consoleLine`, in which the fields stand behind the event in the order of their
names.
-/

namespace SchemaAtlas

open Text

/-- An event of the log. -/
structure LogRecord where
  level : LogLevel
  event : String
  fields : Keyed Data := []

/-- The name of a level in records. -/
def LogLevel.tag : LogLevel → String
  | .debug => "debug"
  | .info => "info"
  | .warning => "warning"
  | .error => "error"
  | .critical => "critical"

/-- The time at which a record is written, and the run that it belongs to. -/
structure LogStamp where
  time : String
  run : Option String := none

namespace LogRecord

/-- A record of a named logger; an empty name is none, and a field of the record wins over it. -/
def named (name : Option String) (record : LogRecord) : LogRecord :=
  match name with
  | none | some "" => record
  | some name => { record with fields := Keyed.ofList (("logger", .text name) :: record.fields) }

/-- Everything that the record says.  Its own parts take precedence over fields of their names. -/
def entries (stamp : LogStamp) (record : LogRecord) : Keyed Data :=
  let own := [("event", Data.text record.event), ("level", .text record.level.tag),
    ("timestamp", .text stamp.time)] ++
      match stamp.run with
      | some run => [("run_id", .text run)]
      | none => []
  .ofList (record.fields ++ own)

/-- The record as a JSON object. -/
def jsonLine (stamp : LogStamp) (record : LogRecord) : String :=
  (Data.record (record.entries stamp)).toJson

/-- Characters that a text in a line for people is quoted for. -/
def needsQuotes (c : Char) : Bool :=
  [' ', '\t', '=', '\r', '\n', '"', '\''].contains c

/-- The value of a field in a line for people. -/
def fieldText : Data → String
  | .text s => if s.toList.any needsQuotes then quoted s else s
  | d => d.literal

/-- The parts of a line for people that have places of their own. -/
def placedNames : List String :=
  ["timestamp", "level", "event", "logger", "logger_name"]

/-- A part that has a place of its own. -/
def placedText (name : String) (d : Data) : String :=
  match name with
  | "timestamp" | "event" => d.shown
  | _ => "[" ++ d.shown ++ "]"

/-- The record as a line for people. -/
def consoleLine (stamp : LogStamp) (record : LogRecord) : String :=
  let entries := record.entries stamp
  let placed := placedNames.filterMap fun name =>
    (Keyed.get? entries name).map (placedText name)
  let others := entries.filter fun e => !placedNames.contains e.1
  let fields := (others.mergeSort fun a b => decide (a.1 ≤ b.1)).map fun e =>
    e.1 ++ "=" ++ fieldText e.2
  let line := joined " " ((placed ++ fields).filter fun part => !part.isEmpty)
  .ofList (line.toList.reverse.dropWhile (· == ' ')).reverse

/-- The record as it is written where nothing else is set up: all that it says, as one value. -/
def bareLine (stamp : LogStamp) (record : LogRecord) : String :=
  (Data.record (record.entries stamp)).shown

/-- The record in one of the formats. -/
def line (format : LogFormat) (stamp : LogStamp) (record : LogRecord) : String :=
  match format with
  | .json => record.jsonLine stamp
  | .console => record.consoleLine stamp

end LogRecord

end SchemaAtlas

import SchemaAtlas.Settings.Basic
import SchemaAtlas.Text.Separated

/-!
# The settings file of a project

`UserSettings.fileText` writes a settings file with a comment above every entry.  Entries that have
their default are commented out, so that a later change of the default reaches the project.
-/

namespace SchemaAtlas

/-- An entry of the file with its comment and the blank line behind it. -/
def fileEntryLines (comment key value fallback : String) : List String :=
  let line := key ++ ": " ++ value
  ["# " ++ comment, if value == fallback then "# " ++ line else line, ""]

/-- The lines of the file; the last is empty. -/
def UserSettings.fileLines (s : UserSettings) : List String :=
  let standard : UserSettings := {}
  ["# SchemaPlane Configuration",
    "# Every key can also be set via SCHEMAPLANE__<SECTION>__<KEY> env vars.", ""] ++
    fileEntryLines "Schema source file" "schema_path" s.schemaPath standard.schemaPath ++
    fileEntryLines "Output directory for `spl docs`" "docs_dir" s.docsDir standard.docsDir ++
    fileEntryLines "Output file for `spl types`" "types_path" s.typesPath standard.typesPath ++
    fileEntryLines "Log level: DEBUG, INFO, WARNING, ERROR, CRITICAL" "log_level" s.logLevel.name
      standard.logLevel.name

/-- The text of the file. -/
def UserSettings.fileText (s : UserSettings) : String :=
  Text.joined "\n" s.fileLines

end SchemaAtlas

/-!
# What is shown on the console

The console receives `ConsoleItem`s one after another: lines, tables, and a live line that stays while
something runs.  In most of their texts square brackets mark styles.  A console reads the marks by its
`Markup`; where they do not fit together, it shows nothing of the item.
-/

namespace SchemaAtlas

/-- A table with a title. -/
structure ConsoleTable where
  title : String
  columns : List String
  rows : List (List String)
  deriving DecidableEq

/-- One thing that is shown. -/
inductive ConsoleItem where
  /-- A line with marks. -/
  | line (text : String)
  /-- A line in which brackets mean nothing. -/
  | verbatim (text : String)
  | table (t : ConsoleTable)
  | live (text : String)
  deriving DecidableEq

/-- The texts of the item in which brackets mark styles. -/
def ConsoleItem.markedTexts : ConsoleItem → List String
  | .line text | .live text => [text]
  | .verbatim _ => []
  | .table t => t.title :: t.columns ++ t.rows.flatten

/-- The styles that console items use. -/
def styleNames : List String :=
  ["green", "red", "yellow", "blue", "cyan", "magenta", "white", "dim"]

/-- Text in a style. -/
def styled (style text : String) : String :=
  "[" ++ style ++ "]" ++ text ++ "[/" ++ style ++ "]"

/-- Marks that do not fit together. -/
structure MarkupFault where
  message : String
  deriving DecidableEq

/-- How a console reads the marks in a text.  Whatever else it may refuse, a text without brackets and
a style around the beginning of a text are fine; a backslash in front of a bracket takes its meaning. -/
structure Markup where
  /-- What is shown of the text, or what is wrong with its marks. -/
  shown : String → Except MarkupFault String
  isOk_unmarked : ∀ text : String, '[' ∉ text.toList → (shown text).isOk
  isOk_styled : ∀ style ∈ styleNames, ∀ text rest : String, '[' ∉ text.toList →
    '\\' ∉ text.toList → '[' ∉ rest.toList → (shown (styled style text ++ rest)).isOk

/-- What is wrong with the marks in the item, if anything. -/
def Markup.fault? (markup : Markup) (item : ConsoleItem) : Option MarkupFault :=
  item.markedTexts.findSome? fun text =>
    match markup.shown text with
    | .ok _ => none
    | .error fault => some fault

theorem Markup.fault?_line (markup : Markup) (text : String) :
    markup.fault? (.line text) = match markup.shown text with
      | .ok _ => none
      | .error fault => some fault := by
  cases h : markup.shown text <;> simp [fault?, ConsoleItem.markedTexts, h]

end SchemaAtlas

import SchemaAtlas.Docs.Markdown
import SchemaAtlas.Schema.Grouping
import SchemaAtlas.Settings.Basic

/-!
# The index page

`indexPage` counts what a schema declares, lists the models by category with links to their pages,
and the values of every enumeration.  It fails only on an enumeration with a blank value.
-/

namespace SchemaAtlas.Docs

open Text Markdown

/-- The models by category, in the order of their names. -/
def modelGroups (models : List Model) : List (CategoryGroup Model) :=
  (byCategory models).map fun g => ⟨g.category, inTextOrder Model.name g.members⟩

/-- The path of the page of a model, below the directory of the documentation. -/
def pagePath (settings : DocSettings) (name : String) : String :=
  settings.modelsDir ++ "/" ++ name ++ ".md"

/-- A sum over the models of a schema. -/
def total (models : List Model) (size : Model → Nat) : Nat :=
  models.foldl (fun n m => n + size m) 0

/-- The counts over the whole schema. -/
def countTable (s : Schema) : Table where
  header := ["Metric", "Count"]
  rows := [
    ["Models", toString s.models.length],
    ["Enums", toString s.enumerations.length],
    ["Total Fields", toString (total s.models fun m => m.scalarFields.length)],
    ["Total Relations", toString (total s.models fun m => m.relationFields.length)],
    ["Total Indexes", toString (total s.models fun m => m.indexes.length)]]

/-- The row of a model. -/
def modelRow (settings : DocSettings) (m : Model) : List String :=
  [link m.name ("./" ++ pagePath settings m.name), toString m.scalarFields.length,
    toString m.relationFields.length, toString m.indexes.length]

/-- The table of the models of one category. -/
def groupTable (settings : DocSettings) (g : CategoryGroup Model) : Table where
  header := ["Model", "Fields", "Relations", "Indexes"]
  rows := g.members.map (modelRow settings)

/-- The icon and the label of a category. -/
def categoryTitle (category : Category) : String :=
  category.icon ++ " " ++ category.label

/-- The lines of one category. -/
def groupLines (settings : DocSettings) (g : CategoryGroup Model) : List String :=
  ["### " ++ categoryTitle g.category ++ " (" ++ toString g.members.length ++ ")", ""] ++
    (groupTable settings g).lines ++ [""]

/-- The lines of one enumeration. -/
def enumerationLines (e : Enumeration) : Except ValueFault (List String) := do
  let members ← e.members
  return ["### " ++ e.name, "", code (joined "` | `" members), ""]

/-- Where the documentation comes from: the path of the schema, and the day if it is to be shown. -/
structure Origin where
  source : String := "prisma/schema.prisma"
  day : Option String := none

/-- The lines that tell the origin. -/
def originLines (origin : Origin) : List String :=
  ["> Auto-generated from " ++ code origin.source] ++
    (match origin.day with
      | some day => if day.isEmpty then [] else ["> Generated: " ++ day]
      | none => []) ++ [""]

/-- The index page. -/
def indexPage (settings : DocSettings) (origin : Origin) (s : Schema) :
    Except ValueFault String := do
  let enumerations ← s.enumerations.mapM enumerationLines
  return joined "\n" (["# Database Schema Documentation", ""] ++ originLines origin ++
    ["## Overview", ""] ++ (countTable s).lines ++ ["", "## Models by Category", ""] ++
    (modelGroups s.models).flatMap (groupLines settings) ++ ["## Enums", ""] ++
    enumerations.flatten)

end SchemaAtlas.Docs

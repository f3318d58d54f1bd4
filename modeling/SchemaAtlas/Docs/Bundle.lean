import SchemaAtlas.Docs.DiagramPage
import SchemaAtlas.Docs.ModelPage
import SchemaAtlas.Keyed
import SchemaAtlas.Text.Blank

/-!
# The documentation as a whole

A `Selection` says which models get a page.  `bundle` writes those pages, the index and the diagram
page under their paths; the selection chooses pages and never changes what is on one.
-/

namespace SchemaAtlas.Docs

open Text

/-- Which models get a page: those of a category if one is given, else those with the given names,
else all.  Letter case does not matter. -/
structure Selection where
  names : List String := []
  category : Option String := none

/-- The names that a selection asks for, in lower case. -/
def Selection.wanted (selection : Selection) : List String :=
  ((selection.names.map trimmed).filter fun name => !name.isEmpty).map lower

/-- The models that a selection asks for. -/
def Selection.models (selection : Selection) (s : Schema) : List Model :=
  let label := textOrEmpty selection.category
  if !label.isEmpty then s.models.filter fun m => lower m.category.label == lower label
  else if !selection.names.isEmpty then
    s.models.filter fun m => selection.wanted.contains (lower m.name)
  else s.models

/-- Written documents. -/
structure Bundle where
  /-- Texts under their paths below the directory of the documentation. -/
  files : Keyed String
  /-- The path of every page that was written for a model. -/
  modelPages : List String

/-- The path of the index. -/
def indexPath : String :=
  "README.md"

/-- The path of the diagram page. -/
def diagramPath : String :=
  "ERD.md"

/-- The pages of the given models under their paths. -/
def modelPages (settings : DocSettings) (s : Schema) (models : List Model) :
    List (String × String) :=
  models.map fun m => (pagePath settings m.name, modelPage settings s m)

/-- The documentation of a schema. -/
def bundle (settings : DocSettings) (selection : Selection) (origin : Origin) (s : Schema) :
    Except ValueFault Bundle := do
  let pages := modelPages settings s (selection.models s)
  let index ← indexPage settings origin s
  return {
    files := .ofList (pages ++ [(indexPath, index), (diagramPath, diagramPage settings s)])
    modelPages := pages.map Prod.fst }

end SchemaAtlas.Docs

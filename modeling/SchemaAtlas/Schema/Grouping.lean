import SchemaAtlas.Schema.Basic
import SchemaAtlas.Schema.Category

/-!
# Models by category

`Category.inLabelOrder` lists the categories by their labels, and `byCategory` gives each category
that occurs together with its models.  Every model is in exactly one group, the group of its
category, and groups keep the order of declaration.
-/

namespace SchemaAtlas

/-- Texts in the order of their code points; equal ones stay in place. -/
def inTextOrder {α : Type} (key : α → String) (items : List α) : List α :=
  items.mergeSort fun a b => decide (key a ≤ key b)

/-- Every category, in the order of the labels. -/
def Category.inLabelOrder : List Category :=
  inTextOrder Category.label Category.all

/-- The category that the name of a model puts it in. -/
def Model.category (m : Model) : Category :=
  Category.ofName m.name

/-- The models of one category. -/
structure CategoryGroup (α : Type) where
  category : Category
  members : List α

/-- The categories that occur, each with its members in order. -/
def groupsBy {α : Type} (categoryOf : α → Category) (items : List α) : List (CategoryGroup α) :=
  let tagged := items.map fun item => (categoryOf item, item)
  Category.inLabelOrder.filterMap fun category =>
    match (tagged.filter fun t => t.1 == category).map Prod.snd with
    | [] => none
    | members => some ⟨category, members⟩

/-- The models by category. -/
def byCategory (models : List Model) : List (CategoryGroup Model) :=
  groupsBy Model.category models

end SchemaAtlas

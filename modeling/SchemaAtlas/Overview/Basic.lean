import SchemaAtlas.Schema.Grouping

/-!
# Overview of a schema

An `Overview` presents the models of a schema by category, each as a `ModelSheet` of readable
fields.  `Overview.find?` looks a model up by its name in any letter case, or by the beginning of
its name if no other model's name begins so.
-/

namespace SchemaAtlas

open Text

/-- A field as it is presented. -/
structure FieldEntry where
  name : String
  typeLabel : String
  kind : FieldKind
  /-- A record must have a value for the field. -/
  isRequired : Bool
  key : String
  initial : String
  relation : String
  notes : String
  deriving DecidableEq

/-- A model as it is presented. -/
structure ModelSheet where
  name : String
  category : Category
  mappedName : Option String
  fields : List FieldEntry
  /-- Indexes and uniqueness constraints as written. -/
  attributes : List String
  line : Nat
  deriving DecidableEq

/-- A schema as it is presented. -/
structure Overview where
  groups : List (CategoryGroup ModelSheet)
  enumerations : List Enumeration

/-- The written name of a kind. -/
def FieldKind.name : FieldKind → String
  | .scalar => "scalar"
  | .enumeration => "enum"
  | .relation => "relation"

/-- The keys of a relation and what happens when the record they refer to is deleted. -/
def Relation.clauseText (r : Relation) : String :=
  match r.onDelete with
  | none | some "" => r.summary
  | some action =>
    let clause := "onDelete: " ++ action
    if r.summary.isEmpty then clause else r.summary ++ " (" ++ clause ++ ")"

/-- The relation clauses of a field. -/
def Field.relationText (f : Field) : String :=
  match f.relation with
  | some r => r.clauseText
  | none => ""

/-- The native type and the comment of a field. -/
def Field.noteText (f : Field) : String :=
  let native := match f.nativeType with
    | none | some "" => []
    | some type => ["@db." ++ type]
  let comment := match f.comment with
    | none | some "" => []
    | some comment => [comment]
  joined "; " (native ++ comment)

/-- The presentation of a field. -/
def FieldEntry.ofField (f : Field) : FieldEntry where
  name := f.name
  typeLabel := f.typeLabel
  kind := f.kind
  isRequired := !f.isOptional && !f.isList
  key := if f.isId then "PK" else if f.isUnique then "unique" else ""
  initial := f.defaultExpr.getD ""
  relation := f.relationText
  notes := f.noteText

namespace ModelSheet

/-- The presentation of a model. -/
def ofModel (m : Model) : ModelSheet where
  name := m.name
  category := m.category
  mappedName := m.mappedName
  fields := m.fields.map FieldEntry.ofField
  attributes := m.blockAttributes.map BlockAttribute.raw
  line := m.line

/-- The number of relation fields. -/
def relationCount (sheet : ModelSheet) : Nat :=
  sheet.fields.countP fun f => f.kind == .relation

/-- The number of other fields. -/
def scalarCount (sheet : ModelSheet) : Nat :=
  sheet.fields.length - sheet.relationCount

/-- The name as it is looked up. -/
def lowerName (sheet : ModelSheet) : String :=
  lower sheet.name

end ModelSheet

namespace Overview

/-- The presentation of a schema. -/
def ofSchema (s : Schema) : Overview where
  groups := groupsBy ModelSheet.category (s.models.map ModelSheet.ofModel)
  enumerations := s.enumerations

/-- All models, category by category. -/
def models (o : Overview) : List ModelSheet :=
  o.groups.flatMap CategoryGroup.members

/-- The model with the given name, or the only one whose name begins so. -/
def find? (o : Overview) (name : String) : Option ModelSheet :=
  let wanted := lower name
  match o.models.find? fun sheet => sheet.lowerName == wanted with
  | some sheet => some sheet
  | none =>
    match o.models.filter fun sheet => wanted.toList.isPrefixOf sheet.lowerName.toList with
    | [sheet] => some sheet
    | _ => none

end Overview

theorem ModelSheet.relationCount_ofModel (m : Model) :
    (ofModel m).relationCount = m.relationFields.length := by
  simp only [relationCount, ofModel, Model.relationFields, List.countP_map,
    ← List.countP_eq_length_filter]
  rfl

end SchemaAtlas

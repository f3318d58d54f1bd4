import SchemaAtlas.Lint.Basic
import SchemaAtlas.Pattern.Match
import SchemaAtlas.Pattern.Reading
import SchemaAtlas.Text.Lower

/-!
# What the rules look for

Four checks, each a function of the schema and the settings alone: foreign keys without an index
(`missingIndexIssues`), fields that are usually unique (`uniquenessIssues`), relations to what does
not exist (`relationIssues`), and models that do not record creation and change (`timestampIssues`).
Only the last can fail, on a pattern that cannot be read.
-/

namespace SchemaAtlas.Lint

open Text

/-- A name between backticks. -/
def ticked (name : String) : String :=
  "`" ++ name ++ "`"

/-! ### Foreign keys without an index -/

/-- The foreign keys of a model, in the order in which they are first named. -/
def foreignKeys (m : Model) : List String :=
  (m.relationFields.flatMap Field.foreignKeys).eraseDups

/-- The field leads an index or constraint, or is an identifier or unique by itself. -/
def isCovered (m : Model) (name : String) : Bool :=
  (m.blockAttributes.any fun a => a.leadField? == some name && !name.isEmpty) ||
    m.fields.any fun f => f.name == name && (f.isId || f.isUnique)

/-- The finding that a foreign key has no index. -/
def missingIndex (m : Model) (key : String) : Issue where
  severity := .warning
  model := m.name
  field := some key
  message := "Foreign key " ++ ticked key ++
    " has no index. JOINs and WHERE clauses on this field will be slow."
  suggestion := some ("@@index([" ++ key ++ "])")
  line := (m.field? key).map Field.line
  rule := "missing-fk-index"

/-- The foreign keys of a model that have no index. -/
def missingIndexIssues (m : Model) : List Issue :=
  ((foreignKeys m).filter fun key => !isCovered m key).map (missingIndex m)

/-! ### Fields that are usually unique -/

/-- The field has a name that usually means a unique value, and nothing makes it unique. -/
def mightBeUnique (settings : LintSettings) (m : Model) (f : Field) : Bool :=
  !f.isRelation && !f.isId && !f.isUnique &&
    (settings.uniqueCandidates.map lower).contains (lower f.name) &&
    !m.uniqueConstraints.any fun a => a.leadFields.contains f.name

/-- The finding that a field might have to be unique. -/
def possiblyUnique (m : Model) (f : Field) : Issue where
  severity := .info
  model := m.name
  field := some f.name
  message := "Field " ++ ticked f.name ++
    " might need a @unique constraint based on its naming pattern."
  suggestion := some ("Add @unique to " ++ ticked f.name ++
    " or verify it intentionally allows duplicates.")
  line := some f.line
  rule := "potential-unique"

/-- The fields of a model that might have to be unique. -/
def uniquenessIssues (settings : LintSettings) (m : Model) : List Issue :=
  (m.fields.filter (mightBeUnique settings m)).map (possiblyUnique m)

/-! ### Relations to what does not exist -/

/-- A finding about a relation field. -/
def relationIssue (m : Model) (f : Field) (severity : Severity) (message : String)
    (suggestion : Option String) : Issue where
  severity := severity
  model := m.name
  field := some f.name
  message := message
  suggestion := suggestion
  line := some f.line
  rule := "relation-integrity"

/-- The finding that the target of a relation is no model. -/
def missingTarget (m : Model) (f : Field) : Issue :=
  relationIssue m f .error
    ("Relation target " ++ ticked f.baseType ++ " does not exist as a model.") none

/-- The finding that no relation leads back from the target. -/
def missingReturn (m : Model) (f : Field) : Issue :=
  relationIssue m f .warning
    ("Relation to " ++ ticked f.baseType ++ " has no back-relation in the target model.")
    (some ("Add a field in " ++ ticked f.baseType ++ " that references " ++ ticked m.name ++ "."))

/-- The finding that a foreign key is no field of its model. -/
def missingKey (m : Model) (f : Field) (key : String) : Issue :=
  relationIssue m f .error
    ("Relation FK field " ++ ticked key ++ " referenced in @relation does not exist.") none

/-- The finding that what a foreign key refers to is no field of the target. -/
def missingReference (m : Model) (f : Field) (name : String) : Issue :=
  relationIssue m f .error
    ("Referenced field " ++ ticked name ++ " does not exist in " ++ ticked f.baseType ++ ".") none

/-- The field owns its relation, and no relation field of the target leads back. -/
def lacksReturn (m target : Model) (f : Field) : Bool :=
  !f.isList && !f.foreignKeys.isEmpty &&
    !target.relationFields.any fun back => back.baseType == m.name

/-- The findings about a relation to an existing model. -/
def targetIssues (m target : Model) (f : Field) : List Issue :=
  (if lacksReturn m target f then [missingReturn m f] else []) ++
    (f.foreignKeys.filter fun key => !m.hasField key).map (missingKey m f) ++
    (f.references.filter fun name => !target.hasField name).map (missingReference m f)

/-- The findings about a relation field. -/
def fieldIssues (s : Schema) (m : Model) (f : Field) : List Issue :=
  if s.enumerationNames.contains f.baseType then []
  else match s.model? f.baseType with
    | none => [missingTarget m f]
    | some target => targetIssues m target f

/-- The findings about the relations of a model. -/
def relationIssues (s : Schema) (m : Model) : List Issue :=
  m.relationFields.flatMap (fieldIssues s m)

/-! ### Models without timestamps -/

/-- The model is large enough to need timestamps and has neither. -/
def lacksTimestamps (settings : LintSettings) (skipped : List Pattern) (m : Model) : Bool :=
  !(skipped.any fun p => p.occursIn m.name) && !m.hasField settings.timestampFields.1 &&
    !m.hasField settings.timestampFields.2 &&
    settings.minFieldsForTimestamps < (m.fields.length : Int)

/-- The finding that a model has no timestamps. -/
def missingTimestamps (settings : LintSettings) (m : Model) : Issue :=
  let (created, updated) := settings.timestampFields
  { severity := .info
    model := m.name
    message := "Model has no " ++ ticked created ++ "/" ++ ticked updated ++ " timestamps."
    suggestion := some ("Consider adding: " ++ created ++ " DateTime @default(now()) and " ++
      updated ++ " DateTime @updatedAt")
    line := some m.line
    rule := "missing-timestamps" }

/-- Why a check could not be made. -/
inductive CheckFault where
  | unreadablePattern (fault : PatternFault)
  deriving DecidableEq

/-- A pattern of the settings. -/
def readPattern (s : String) : Except CheckFault Pattern :=
  (Pattern.ofText s).mapError .unreadablePattern

/-- The models without timestamps. -/
def timestampIssues (settings : LintSettings) (models : List Model) :
    Except CheckFault (List Issue) := do
  let skipped ← settings.joinTablePatterns.mapM readPattern
  return (models.filter (lacksTimestamps settings skipped)).map (missingTimestamps settings)

end SchemaAtlas.Lint

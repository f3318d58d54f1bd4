import SchemaAtlas.Schema.Block
import SchemaAtlas.Schema.FieldLine
import SchemaAtlas.Text.Lines

/-!
# Schema text

`Schema.ofText` reads a schema.  A first look over all lines finds the enumerations that are
declared anywhere, so that a field may use one that comes later; then `declarationsFrom` reads block
after block.  Reading is lenient: a line that is understood nowhere is passed over, and a block that
is never closed ends the schema.
-/

namespace SchemaAtlas

open Text

/-- The two kinds of blocks that declare something. -/
inductive BlockKind where
  | model
  | enumeration
  deriving DecidableEq

/-- The line that opens a declaration. -/
structure Header where
  kind : BlockKind
  name : String
  deriving DecidableEq

/-- The name behind the word that opens a declaration. -/
def Header.name? (word : String) (line : Line) : Option String :=
  match after? word line with
  | some (c :: rest) =>
    if isBlank c then
      match (spanWord (trimLeft rest)).1 with
      | [] => none
      | name => some (.ofList name)
    else none
  | _ => none

/-- The header on a line, if the line is one. -/
def Header.read? (line : Line) : Option Header :=
  match Header.name? "model" (trim line), Header.name? "enum" (trim line) with
  | some name, _ => some ⟨.model, name⟩
  | none, some name => some ⟨.enumeration, name⟩
  | none, none => none

/-- The name of the enumeration that a line declares. -/
def enumerationHeader? (line : Line) : Option String :=
  match Header.read? line with
  | some ⟨.enumeration, name⟩ => some name
  | _ => none

/-- The enumerations that are declared on any of the lines. -/
def declaredEnumerations (lines : List Line) : List String :=
  (lines.filterMap enumerationHeader?).eraseDups

/-- What a line inside a model is. -/
inductive BodyLine where
  | blank
  | comment (text : String)
  | attribute (code : List Char)
  | field (text : List Char)

/-- What a line inside a model is, judged by its first characters. -/
def BodyLine.ofLine (line : Line) : BodyLine :=
  let text := trim line
  if text.isEmpty then .blank
  else if startsWith "//" text then .comment (.ofList (trim (text.dropWhile (· == '/'))))
  else if startsWith "@@" text then .attribute (Attribute.codeAndComment text).1
  else .field text

/-- The fields on the lines of a model.  A comment on a line of its own is kept for the next field,
across block attributes but not across blank lines. -/
def fieldsFrom (enums : List String) (pending : Option String) (number : Nat) :
    List Line → List Field
  | [] => []
  | line :: rest =>
    match BodyLine.ofLine line with
    | .blank => fieldsFrom enums none (number + 1) rest
    | .comment text => fieldsFrom enums (some text) (number + 1) rest
    | .attribute _ => fieldsFrom enums pending (number + 1) rest
    | .field text =>
      match Field.read? enums pending number text with
      | some f => f :: fieldsFrom enums none (number + 1) rest
      | none => fieldsFrom enums none (number + 1) rest

/-- The text of a line that is a comment. -/
def commentLine? (line : Line) : Option String :=
  match BodyLine.ofLine line with
  | .comment text => some text
  | _ => none

/-- The code of a line that is a block attribute starting with `word`. -/
def attributeLine? (word : String) (line : Line) : Option (List Char) :=
  match BodyLine.ofLine line with
  | .attribute code => if startsWith word code then some code else none
  | _ => none

/-- The block attributes that start with `word`. -/
def BlockAttribute.ofBody (word : String) (body : List Line) : List BlockAttribute :=
  (body.filterMap (attributeLine? word)).map fun code =>
    ⟨Attribute.fieldNames code, .ofList code⟩

/-- The model whose header is on line `number`.  Of several mapping attributes the last counts. -/
def Model.ofBlock (enums : List String) (number : Nat) (name : String) (block : Block) : Model where
  name := name
  fields := fieldsFrom enums none (number + 1) block.body
  mappedName := (block.body.filterMap (attributeLine? "@@map(")).getLast?.bind Attribute.mappedName?
  indexes := BlockAttribute.ofBody "@@index(" block.body
  uniqueConstraints := BlockAttribute.ofBody "@@unique(" block.body
  comments := block.body.filterMap commentLine?
  line := number
  endLine := number + block.extent

/-- A line that holds a value of an enumeration. -/
def valueLine? (line : Line) : Option String :=
  let text := trim line
  if text.isEmpty || startsWith "//" text then none else some (.ofList text)

/-- The enumeration with the given body. -/
def Enumeration.ofBlock (name : String) (block : Block) : Enumeration where
  name := name
  values := block.body.filterMap valueLine?

/-- A declared model or enumeration. -/
inductive Declaration where
  | model (m : Model)
  | enumeration (e : Enumeration)

/-- The declaration with the given header and block. -/
def Declaration.ofBlock (enums : List String) (number : Nat) (header : Header) (block : Block) :
    Declaration :=
  match header.kind with
  | .model => .model (.ofBlock enums number header.name block)
  | .enumeration => .enumeration (.ofBlock header.name block)

/-- The declared model, if it is one. -/
def Declaration.model? : Declaration → Option Model
  | .model m => some m
  | .enumeration _ => none

/-- The declared enumeration, if it is one. -/
def Declaration.enumeration? : Declaration → Option Enumeration
  | .model _ => none
  | .enumeration e => some e

/-- The declarations on the lines from line `number` on, of which the first `inside` belong to a
block that has been read. -/
def declarationsFrom (enums : List String) (number inside : Nat) : List Line → List Declaration
  | [] => []
  | line :: rest =>
    match inside with
    | inside + 1 => declarationsFrom enums (number + 1) inside rest
    | 0 =>
      match Header.read? line with
      | none => declarationsFrom enums (number + 1) 0 rest
      | some header =>
        match Block.read? line rest with
        | none => []
        | some block =>
          .ofBlock enums number header block ::
            declarationsFrom enums (number + 1) block.extent rest

/-- The schema that the lines declare. -/
def Schema.ofLines (lines : List Line) : Schema :=
  let declarations := declarationsFrom (declaredEnumerations lines) 1 0 lines
  ⟨declarations.filterMap Declaration.model?, declarations.filterMap Declaration.enumeration?⟩

/-- The schema that a text declares. -/
def Schema.ofText (text : String) : Schema :=
  .ofLines (lines text.toList)

end SchemaAtlas

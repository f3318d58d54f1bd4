import SchemaAtlas.Schema.Attribute

/-!
# Field lines

A field line is a name, blanks, a type with an optional list marker and an optional question mark,
and attributes.  `FieldSignature.read?` reads the part in front of the attributes and `Field.read?`
the whole line; the trailing comment is set aside before any attribute is looked for.
-/

namespace SchemaAtlas

open Text

/-- What a field line says in front of its attributes. -/
structure FieldSignature where
  name : List Char
  baseType : List Char
  isList : Bool
  isOptional : Bool

/-- The name and type that a line starts with. -/
def FieldSignature.read? (code : List Char) : Option FieldSignature :=
  match spanWord code with
  | ([], _) => none
  | (name, c :: behindName) =>
    if isBlank c then
      match spanWord (trimLeft behindName) with
      | ([], _) => none
      | (baseType, behindType) =>
        let list := after? "[]" behindType
        let behindList := list.getD behindType
        some ⟨name, baseType, list.isSome, behindList.head? == some '?'⟩
    else none
  | (_, []) => none

/-- The field on a line, if the line is one.  `enums` are the known enumerations, `pending` is the
comment above the line, which counts if the line has none of its own, and `number` is the number of
the line. -/
def Field.read? (enums : List String) (pending : Option String) (number : Nat) (line : List Char) :
    Option Field :=
  let (code, comment) := Attribute.codeAndComment (trim line)
  (FieldSignature.read? code).map fun signature => {
    name := .ofList signature.name
    baseType := .ofList signature.baseType
    kind := .ofType enums (.ofList signature.baseType)
    isList := signature.isList
    isOptional := signature.isOptional
    isId := Attribute.hasMarker "@id" code
    isUnique := Attribute.hasMarker "@unique" code
    defaultExpr := Attribute.defaultExpr? code
    relation := Attribute.relation? code
    nativeType := Attribute.nativeType? code
    comment := comment <|> pending
    line := number }

theorem Field.line_of_read? {enums : List String} {pending : Option String} {number : Nat}
    {line : List Char} {f : Field} (h : read? enums pending number line = some f) :
    f.line = number := by
  obtain ⟨_, _, rfl⟩ := Option.map_eq_some_iff.1 h
  rfl

theorem Field.kind_of_read? {enums : List String} {pending : Option String} {number : Nat}
    {line : List Char} {f : Field} (h : read? enums pending number line = some f) :
    f.kind = .ofType enums f.baseType := by
  obtain ⟨_, _, rfl⟩ := Option.map_eq_some_iff.1 h
  rfl

end SchemaAtlas

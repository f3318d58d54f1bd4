import SchemaAtlas.Text.Separated
import SchemaAtlas.Types.Basic

/-!
# Record types in TypeScript

`TypeMember.typeText` writes the type of a member; a model stands for its stored values.
`TypeBundle.moduleText` is the whole module: a header, the enumerations, the record types of every
model and some types that every client needs.
-/

namespace SchemaAtlas

open Text

/-- The type of a member. -/
def TypeMember.typeText (member : TypeMember) : String :=
  member.type.name ++ (if member.type.origin == .model then "Scalar" else "") ++
    (if member.isList then "[]" else "") ++ (if member.isNullable then " | null" else "")

/-- The line of a member. -/
def TypeMember.line (member : TypeMember) : String :=
  "  " ++ member.name ++ (if member.isOptional then "?" else "") ++ ": " ++ member.typeText ++ ";"

/-- A heading between the parts of a module. -/
def partHeading (title : String) : List String :=
  ["// ─── " ++ title ++ " ───", ""]

/-- The declaration of a record type. -/
def recordLines (name : String) (members : List TypeMember) : List String :=
  ["export type " ++ name ++ " = \x7b"] ++ members.map TypeMember.line ++ ["\x7d;", ""]

/-- The declaration of the records with what they are connected with. -/
def relationLines (types : ModelTypes) : List String :=
  let name := types.name ++ "WithRelations"
  let base := types.name ++ "Scalar"
  if types.withRelations.isEmpty then ["export type " ++ name ++ " = " ++ base ++ ";", ""]
  else
    ["export type " ++ name ++ " = " ++ base ++ " & \x7b"] ++
      types.withRelations.map TypeMember.line ++ ["\x7d;", ""]

/-- The declarations of a model. -/
def ModelTypes.lines (types : ModelTypes) : List String :=
  partHeading types.name ++ recordLines (types.name ++ "Scalar") types.scalar ++
    recordLines (types.name ++ "CreateInput") types.createInput ++
    recordLines (types.name ++ "UpdateInput") types.updateInput ++ relationLines types

/-- The union of the values of an enumeration. -/
def unionText (members : List String) : String :=
  if members.isEmpty then "never"
  else joined " | " (members.map fun member => "'" ++ member ++ "'")

/-- The declaration of an enumeration. -/
def Enumeration.typeLines (e : Enumeration) : Except ValueFault (List String) := do
  let members ← e.members
  return ["export type " ++ e.name ++ " = " ++ unionText members ++ ";", ""]

/-- The header and the import of a module. -/
def moduleHeader (settings : TypeSettings) : List String :=
  ["/**", " * AUTO-GENERATED FILE - DO NOT EDIT",
    " * Generated by " ++ settings.headerName ++
      ". Re-run the generator after schema changes.",
    " */", "",
    "import type \x7b JsonValue, Decimal \x7d from '" ++ settings.runtimeImport ++ "';", ""]

/-- Types that do not depend on the schema. -/
def sharedTypes : List String :=
  ["// ─── Utility Types ───",
    "",
    "export interface PaginatedResponse<T> \x7b",
    "  data: T[];",
    "  total: number;",
    "  page: number;",
    "  pageSize: number;",
    "  totalPages: number;",
    "\x7d",
    "",
    "export interface ApiError \x7b",
    "  error: string;",
    "  message?: string;",
    "  details?: unknown;",
    "\x7d",
    "",
    "export interface BaseListParams \x7b",
    "  page?: number;",
    "  pageSize?: number;",
    "  search?: string;",
    "  sortBy?: string;",
    "  sortOrder?: 'asc' | 'desc';",
    "\x7d",
    "",
    "export interface CompanyScopedWhere \x7b",
    "  companyId: number;",
    "\x7d",
    "",
    "export interface ListQueryArgs<TWhere = Record<string, unknown>> \x7b",
    "  where?: TWhere;",
    "  skip?: number;",
    "  take?: number;",
    "  orderBy?: Record<string, 'asc' | 'desc'>;",
    "\x7d",
    ""]

/-- The lines of a module; the last is empty. -/
def TypeBundle.moduleLines (settings : TypeSettings) (bundle : TypeBundle) :
    Except ValueFault (List String) := do
  let enumerations ← bundle.enumerations.mapM Enumeration.typeLines
  return moduleHeader settings ++
    (if bundle.enumerations.isEmpty then [] else partHeading "Enums") ++ enumerations.flatten ++
    bundle.models.flatMap ModelTypes.lines ++ sharedTypes

/-- The text of a module. -/
def TypeBundle.moduleText (settings : TypeSettings) (bundle : TypeBundle) :
    Except ValueFault String :=
  (bundle.moduleLines settings).map (joined "\n")

end SchemaAtlas

import SchemaAtlas.Schema.Basic
import SchemaAtlas.Text.Blank
import SchemaAtlas.Text.Search
import SchemaAtlas.Text.Separated
import SchemaAtlas.Text.Word

/-!
# Attributes on a schema line

Arguments nest, as in a default that calls a function on a quoted text, so `argumentText` reads up
to the parenthesis that balances the opening one and passes over quoted strings, in which a
backslash protects the next character.  `defaultExpr?` and `relation?` read field attributes that
way, `nativeType?`, `mappedName?` and `fieldNames` read the flat ones, and `codeAndComment`
separates a line from its trailing comment.
-/

namespace SchemaAtlas.Attribute

open Text

/-! ### Balanced arguments -/

/-- The text up to the parenthesis that closes the argument, or all of it if none does.  `depth`
parentheses are open inside the argument, and `quoted` says whether the text starts inside a
string. -/
def argumentFrom (quoted : Bool) (depth : Nat) : List Char → List Char
  | [] => []
  | c :: rest =>
    if quoted then
      if c = '\\' then
        match rest with
        | [] => [c]
        | d :: rest => c :: d :: argumentFrom true depth rest
      else c :: argumentFrom (c != '"') depth rest
    else if c = '"' then c :: argumentFrom true depth rest
    else if c = '(' then c :: argumentFrom false (depth + 1) rest
    else if c = ')' then
      match depth with
      | 0 => []
      | depth + 1 => c :: argumentFrom false depth rest
    else c :: argumentFrom false depth rest

/-- The argument whose opening parenthesis stands right before the text, without blanks at its
ends. -/
def argumentText (cs : List Char) : List Char :=
  trim (argumentFrom false 0 cs)

/-- The argument whose opening parenthesis is character number `openAt` of the line. -/
def argumentAt (line : List Char) (openAt : Int) : String :=
  .ofList (argumentText (line.drop (openAt + 1).toNat))

/-- The default expression of a field line. -/
def defaultExpr? (line : List Char) : Option String :=
  (afterFirst? "@default(" line).map fun rest => .ofList (argumentText rest)

/-! ### Relations -/

/-- The names in a comma-separated list, without empty ones. -/
def nameList (cs : List Char) : List String :=
  ((cutAt ',' cs).map trim).filterMap fun part => if part.isEmpty then none else some (.ofList part)

/-- The text behind `key`, its colon and any blanks, where `key` is not the end of a longer word. -/
def clauseValue? (key : String) (before : Option Char) (cs : List Char) : Option (List Char) :=
  if atBoundary before cs.head? then (after? (key ++ ":") cs).map trimLeft else none

/-- The first bracketed list that is given for `key`. -/
def listClause? (key : String) (cs : List Char) : Option (List Char) :=
  cs |> first? fun before here =>
    match clauseValue? key before here with
    | some ('[' :: inner) => (cutFirst? ']' inner).map Prod.fst
    | _ => none

/-- The first word that is given for `key`. -/
def wordClause? (key : String) (cs : List Char) : Option String :=
  cs |> first? fun before here =>
    match clauseValue? key before here with
    | some value =>
      let word := (spanWord value).1
      if word.isEmpty then none else some (.ofList word)
    | none => none

/-- The quoted name that an argument starts with, with or without a `name:` in front of it. -/
def leadingName? (cs : List Char) : Option String :=
  let start := trimLeft cs
  let quoted := match after? "name:" start with
    | some rest => trimLeft rest
    | none => start
  match quoted with
  | '"' :: inner => (cutFirst? '"' inner).map fun cut => .ofList cut.1
  | _ => none

/-- The names in the list that is given for `key`, none if there is no such list. -/
def namesOf (key : String) (cs : List Char) : List String :=
  match listClause? key cs with
  | some inner => nameList inner
  | none => []

/-- The clauses inside the argument of a relation attribute. -/
def relationClauses (cs : List Char) : Relation where
  name := leadingName? cs
  fields := namesOf "fields" cs
  references := namesOf "references" cs
  onDelete := wordClause? "onDelete" cs
  onUpdate := wordClause? "onUpdate" cs

/-- The relation attribute of a field line.  Only its own argument is read, so that nothing behind
it on the line counts as one of its clauses. -/
def relation? (line : List Char) : Option Relation :=
  (afterFirst? "@relation(" line).map fun rest => relationClauses (argumentText rest)

/-! ### Flat attributes -/

/-- The native type behind `@db.` at the start of the text, with its argument if that is closed. -/
def nativeTypeAt? (cs : List Char) : Option String :=
  match after? "@db." cs with
  | none => none
  | some rest =>
    match spanWord rest with
    | ([], _) => none
    | (word, '(' :: inner) =>
      match cutFirst? ')' inner with
      | some (argument, _) => some (.ofList (word ++ '(' :: argument ++ [')']))
      | none => some (.ofList word)
    | (word, _) => some (.ofList word)

/-- The native database type of a field line. -/
def nativeType? (line : List Char) : Option String :=
  first? (fun _ => nativeTypeAt?) line

/-- The text in front of the first quote that ends the whole attribute. -/
def quotedToEnd? : List Char → Option (List Char)
  | [] => none
  | c :: rest =>
    if c = '"' && (trimLeft rest).head? == some ')' then some []
    else if c = '\n' then none
    else (quotedToEnd? rest).map (c :: ·)

/-- The name in a mapping attribute at the start of the text; it is not empty. -/
def mappedNameAt? (cs : List Char) : Option String :=
  match (after? "@@map(" cs).map trimLeft with
  | some ('"' :: c :: inner) =>
    if c = '\n' then none else (quotedToEnd? inner).map fun name => .ofList (c :: name)
  | _ => none

/-- The table or type name that a block is mapped to. -/
def mappedName? (line : List Char) : Option String :=
  first? (fun _ => mappedNameAt?) line

/-- The items of a list that is separated by the commas outside parentheses, where `depth`
parentheses are open at its start. -/
def listItems (depth : Int) : List Char → List (List Char)
  | [] => [[]]
  | c :: rest =>
    if c = ',' && depth == 0 then [] :: listItems depth rest
    else
      let depth := if c = '(' then depth + 1 else if c = ')' then depth - 1 else depth
      match listItems depth rest with
      | [] => [[c]]
      | item :: items => (c :: item) :: items

/-- The field that an item of an index list starts with. -/
def itemField? (item : List Char) : Option String :=
  match (spanWord (trim item)).1 with
  | [] => none
  | word => some (.ofList word)

/-- The fields in the first bracketed list of the line. -/
def fieldNames (line : List Char) : List String :=
  match cutFirst? '[' line with
  | none => []
  | some (_, rest) =>
    match cutFirst? ']' rest with
    | none => []
    | some (inner, _) => (listItems 0 inner).filterMap itemField?

/-- The word `marker` occurs and no longer word goes on behind it. -/
def hasMarker (marker : String) (line : List Char) : Bool :=
  let ends := fun (_ : Option Char) here =>
    match after? marker here with
    | some rest => if rest.head?.any isWord then none else some ()
    | none => none
  (first? ends line).isSome

/-! ### Comments -/

/-- The text in front of the first comment and the text of that comment, where `quoted` says whether
the text starts inside a string.  Two slashes inside a string start no comment. -/
def cutComment (quoted : Bool) : List Char → List Char × Option (List Char)
  | [] => ([], none)
  | c :: rest =>
    if quoted then
      if c = '\\' then
        match rest with
        | [] => ([c], none)
        | d :: rest =>
          let cut := cutComment true rest
          (c :: d :: cut.1, cut.2)
      else
        let cut := cutComment (c != '"') rest
        (c :: cut.1, cut.2)
    else if c = '/' && rest.head? == some '/' then ([], some rest.tail)
    else
      let cut := cutComment (c == '"') rest
      (c :: cut.1, cut.2)

/-- The code of a line without the blanks at its end, and its comment if that says anything. -/
def codeAndComment (line : List Char) : List Char × Option String :=
  let cut := cutComment false line
  let comment := match cut.2 with
    | none => none
    | some text => if (trim text).isEmpty then none else some (.ofList (trim text))
  (trimRight cut.1, comment)

end SchemaAtlas.Attribute

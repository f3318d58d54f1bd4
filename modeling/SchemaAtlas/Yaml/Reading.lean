import SchemaAtlas.Yaml.Cursor

/-!
# Reading YAML

`Node.ofText?` reads a text with one document: nested blocks of mappings and sequences by their
columns, collections in brackets, scalars of every style, comments, and labels with the places that
refer to them.  Whatever is not well formed has no reading.  `Data.ofYaml` is the value of what has
been read.
-/

namespace SchemaAtlas.Yaml

open Text

/-- What is known of the type of a scalar before it is read. -/
inductive ScalarMark where
  /-- Its form decides, whatever its quotes. -/
  | form
  /-- It is a text. -/
  | text
  deriving DecidableEq

/-- What stands in front of a value. -/
structure Properties where
  label : Option String := none
  mark : Option ScalarMark := none

/-- Something stands in front of the value. -/
def Properties.isPresent (found : Properties) : Bool :=
  found.label.isSome || found.mark.isSome

/-- The characters of a label. -/
def isLabelChar (c : Char) : Bool :=
  c.isAlphanum || c == '-' || c == '_'

/-- A label, behind its sign. -/
def label : Reader String := do
  modify Cursor.next
  let c ← get
  let name := c.rest.takeWhile isLabelChar
  let c := c.advance name.length
  let ends := isGap c.head? || c.head?.any "?:,]\x7d%@`".toList.contains
  if name.isEmpty || !ends then refuse
  set { c with nameAllowed := false }
  return .ofList name

/-- Labels and marks of the type in front of a value, up to the end of the line. -/
def properties : Nat → Properties → Reader Properties
  | 0, found => return found
  | fuel + 1, found => do
    let c ← get
    match c.head? with
    | some '&' =>
      if found.label.isSome then refuse
      let name ← label
      modify fun c => c.skip (· == ' ')
      properties fuel { found with label := some name }
    | some '!' =>
      let word := c.rest.takeWhile fun d => !isGap (some d)
      let mark := if word == ['!'] then some ScalarMark.form
        else if word == "!!str".toList then some .text else none
      if found.mark.isSome || mark.isNone then refuse
      set { (c.advance word.length) with nameAllowed := false }
      modify fun c => c.skip (· == ' ')
      properties fuel { found with mark := mark }
    | _ => return found

/-- The node is remembered under its label. -/
def remember (found : Properties) (node : Node) : Reader Node := do
  match found.label with
  | some name => modify fun c => { c with labels := c.labels.put name node }
  | none => pure ()
  return node

/-- The node of a scalar that is read, where `node` is its kind without a mark. -/
def marked (found : Properties) (node : String → Node) (s : String) : Node :=
  match found.mark with
  | some .form => .plain s
  | some .text => .text s
  | none => node s

/-- A place that refers to a label. -/
def reference : Reader Node := do
  let name ← label
  match (← get).labels.get? name with
  | some node => return node
  | none => refuse

/-- An empty node. -/
def emptyNode (found : Properties) : Node :=
  marked found .plain ""

/-- A collection, which no mark of a scalar may precede. -/
def collection (found : Properties) (node : Node) : Reader Node :=
  if found.mark == some .text then refuse else return node

/-- A colon that separates a name from its value.  It counts for a name that began at `start` if
that is not too far away. -/
def atColon (inFlow : Bool) (start : Cursor) : Reader Bool := do
  let c ← get
  match c.rest with
  | ':' :: rest =>
    let isNear := start.line == c.line && start.rest.length ≤ c.rest.length + 1024
    if !inFlow && !isGap rest.head? then return false
    if isNear && start.nameAllowed then return true else refuse
  | _ => return false

/-! ### Collections in brackets -/

mutual

/-- A node between brackets, or without a block around it. -/
def inlineNode (inFlow : Bool) (least : Int) (found : Properties) : Nat → Reader Node
  | 0 => refuse
  | fuel + 1 => do
    let c ← get
    if c.atMarker then refuse
    match c.head? with
    | some '[' =>
      modify fun c => { c.next with nameAllowed := true }
      let items ← flowItems fuel
      modify fun c => { c with nameAllowed := false }
      collection found (.list items)
    | some '\x7b' =>
      modify fun c => { c.next with nameAllowed := true }
      let entries ← flowEntries fuel
      modify fun c => { c with nameAllowed := false }
      collection found (.mapping entries)
    | some '"' | some '\'' => return marked found .text (← quotedText)
    | some '*' => if found.isPresent then refuse else reference
    | _ => return marked found .plain (← plainText inFlow least)

/-- A node between brackets, with what stands in front of it. -/
def flowNode : Nat → Reader Node
  | 0 => refuse
  | fuel + 1 => do
    passGap true
    let found ← properties 3 {}
    passGap true
    if found.isPresent && (← get).head?.any (fun d => [',', ']', '\x7d', ':'].contains d) then
      remember found (emptyNode found)
    else remember found (← inlineNode true 0 found fuel)

/-- The value behind the colon of an entry between brackets. -/
def flowValue : Nat → Reader Node
  | 0 => refuse
  | fuel + 1 => do
    modify Cursor.next
    passGap true
    if (← get).head?.any fun d => [',', ']', '\x7d'].contains d then return emptyNode {}
    else flowNode fuel

/-- The items of a sequence up to its closing bracket.  An item with a colon is a mapping of one
entry. -/
def flowItems : Nat → Reader (List Node)
  | 0 => refuse
  | fuel + 1 => do
    passGap true
    if (← get).head? == some ']' then modify Cursor.next; return []
    let start ← get
    let node ← flowNode fuel
    passGap true
    let item ← if ← atColon true start then pure (.mapping [(node, ← flowValue fuel)])
      else pure node
    passGap true
    match ← takeChar with
    | ',' =>
      modify fun c => { c with nameAllowed := true }
      return item :: (← flowItems fuel)
    | ']' => return [item]
    | _ => refuse

/-- The entries of a mapping up to its closing bracket. -/
def flowEntries : Nat → Reader (List (Node × Node))
  | 0 => refuse
  | fuel + 1 => do
    passGap true
    if (← get).head? == some '\x7d' then modify Cursor.next; return []
    let start ← get
    let node ← flowNode fuel
    passGap true
    let value ← if ← atColon true start then flowValue fuel else pure (emptyNode {})
    passGap true
    match ← takeChar with
    | ',' =>
      modify fun c => { c with nameAllowed := true }
      return (node, value) :: (← flowEntries fuel)
    | '\x7d' => return [(node, value)]
    | _ => refuse

end

/-! ### Blocks -/

/-- A dash that begins an item. -/
def Cursor.atDash (c : Cursor) : Bool :=
  match c.rest with
  | '-' :: rest => isGap rest.head?
  | _ => false

/-- The text is at its end, or a marker ends the document. -/
def Cursor.atEnd (c : Cursor) : Bool :=
  c.rest.isEmpty || c.atMarker

mutual

/-- The node at the place, which is not empty, in a block at column `indent`. -/
def blockNode (indent : Int) (found : Properties) : Nat → Reader Node
  | 0 => refuse
  | fuel + 1 => do
    let start ← get
    if start.atDash then
      if start.nameAllowed then
        collection found (.list (← blockItems false start.column fuel))
      else refuse
    else if start.head? == some '|' || start.head? == some '>' then
      return marked found .text (← blockText indent)
    else inlineOrMapping indent start found fuel

/-- A node on the line, or the mapping whose first name it is.  The name begins at `start`. -/
def inlineOrMapping (indent : Int) (start : Cursor) (found : Properties) : Nat → Reader Node
  | 0 => refuse
  | fuel + 1 => do
    let node ← inlineNode false (indent + 1) found fuel
    passGap false
    if ← atColon false start then
      let name ← remember found node
      let value ← blockValue start.column fuel
      return .mapping ((name, value) :: (← blockEntries start.column fuel))
    else remember found node

/-- The node at the place, with what stands in front of it, in a block at column `indent`. -/
def propertiedNode (indent : Int) (dashesAt : Option Nat) : Nat → Reader Node
  | 0 => refuse
  | fuel + 1 => do
    let start ← get
    let found ← properties 3 {}
    if !found.isPresent then blockNode indent found fuel
    else
      let c ← get
      passGap false
      let next ← get
      let isDeeper := indent < (next.column : Int)
      if next.atEnd then remember found (emptyNode found)
      else if next.line == c.line then
        if next.head? == some '|' || next.head? == some '>' then
          remember found (← blockNode indent found fuel)
        else inlineOrMapping indent start found fuel
      else if isDeeper then
        remember found (← blockNode indent {} fuel)
      else if next.atDash && dashesAt == some next.column then
        remember found (← collection found (.list (← blockItems true next.column fuel)))
      else remember found (emptyNode found)

/-- The value behind the colon of an entry, in a mapping at column `indent`. -/
def blockValue (indent : Nat) : Nat → Reader Node
  | 0 => refuse
  | fuel + 1 => do
    modify fun c => { c.next with nameAllowed := false }
    passGap false
    let c ← get
    if c.atEnd then return emptyNode {}
    else if indent < c.column then propertiedNode indent (some indent) fuel
    else if c.column == indent && c.atDash then return .list (← blockItems true indent fuel)
    else return emptyNode {}

/-- The further entries of a mapping at column `indent`. -/
def blockEntries (indent : Nat) : Nat → Reader (List (Node × Node))
  | 0 => refuse
  | fuel + 1 => do
    passGap false
    let start ← get
    if start.atEnd || start.column < indent then return []
    else if indent < start.column || !start.nameAllowed || start.atDash then refuse
    else
      let found ← properties 3 {}
      let node ← inlineNode false (indent + 1) found fuel
      passGap false
      if ← atColon false start then
        let name ← remember found node
        let value ← blockValue indent fuel
        return (name, value) :: (← blockEntries indent fuel)
      else refuse

/-- The items of a sequence whose dashes stand at column `indent`.  Inside a mapping the dashes may
stand below the names. -/
def blockItems (isInMapping : Bool) (indent : Nat) : Nat → Reader (List Node)
  | 0 => refuse
  | fuel + 1 => do
    modify fun c => { c.next with nameAllowed := true }
    passGap false
    let c ← get
    let item ← if c.atEnd || c.column ≤ indent then pure (emptyNode {})
      else propertiedNode indent none fuel
    passGap false
    let c ← get
    if c.atEnd || c.column < indent then return [item]
    else if c.column == indent && c.nameAllowed && c.atDash then
      return item :: (← blockItems isInMapping indent fuel)
    else if c.column == indent && isInMapping then return [item]
    else refuse

end

/-! ### Documents -/

/-- A document, from the place on. -/
def document (fuel : Nat) : Reader Node := do
  modify fun c => if c.head? == some '\uFEFF' then c.next else c
  passGap false
  let c ← get
  if c.atMarker && c.head? == some '-' then
    set { (c.advance 3) with nameAllowed := false }
    passGap false
  let c ← get
  let node ← if c.atEnd then pure (emptyNode {}) else propertiedNode (-1) none fuel
  passGap false
  let c ← get
  if c.atMarker && c.head? == some '.' then
    set (c.advance 3)
    passGap false
  if (← get).rest.isEmpty then return node else refuse

/-- The text with the line ends that stand for a line feed. -/
def withLineFeeds (cs : List Char) : List Char :=
  (unifyNewlines cs).map fun c => if c == '\u0085' then '\n' else c

/-- The document that a text writes. -/
def Node.ofText? (s : String) : Option Node := do
  let cs := s.toList
  if cs.all isAllowed then
    let found ← (document (4 * cs.length + 16)).run { rest := withLineFeeds cs }
    return found.1
  else none

end SchemaAtlas.Yaml

namespace SchemaAtlas

/-- The value that a YAML text writes. -/
def Data.ofYaml (s : String) : Except Yaml.NodeFault Data :=
  match Yaml.Node.ofText? s with
  | some node => node.data
  | none => .error .malformed

end SchemaAtlas

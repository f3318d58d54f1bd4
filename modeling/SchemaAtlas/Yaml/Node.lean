import SchemaAtlas.Data.Basic
import SchemaAtlas.Yaml.Scalar

/-!
# Nodes of a YAML text

A `Node` is a part of a text as it is written; `Node.data` is the value that it stands for.  A
mapping takes in the entries of the mappings behind its merge signs (`Node.expanded`) and keeps the
last value of a key.  Where several nodes have no value, the fault that counts is the one nearest to
the root, and of these the first: `Built.both` keeps that order.
-/

namespace SchemaAtlas.Yaml

/-- A part of a text. -/
inductive Node where
  /-- A scalar that stands for what its form says. -/
  | plain (s : String)
  | text (s : String)
  | list (items : List Node)
  | mapping (entries : List (Node × Node))
  deriving Inhabited

/-- Why a text has no value. -/
inductive NodeFault where
  | malformed
  | improper (fault : ScalarFault)
  deriving DecidableEq

/-- A value, or the fault that keeps it from being built and its distance from the root. -/
inductive Built (α : Type) where
  | done (a : α)
  | failed (depth : Nat) (fault : NodeFault)

namespace Built

/-- Two values side by side.  Of two faults the one nearer to the root counts, or else the first. -/
def both {α β γ : Type} (f : α → β → γ) : Built α → Built β → Built γ
  | done a, done b => done (f a b)
  | failed d x, failed e y => if e < d then failed e y else failed d x
  | failed d x, done _ => failed d x
  | done _, failed e y => failed e y

/-- The value, changed. -/
def map {α β : Type} (f : α → β) : Built α → Built β
  | done a => done (f a)
  | failed depth fault => failed depth fault

/-- The value, or the fault alone. -/
def toExcept {α : Type} : Built α → Except NodeFault α
  | done a => .ok a
  | failed _ fault => .error fault

end Built

/-! ### Merged entries -/

namespace Node

/-- A merge sign. -/
def isMerge : Node → Bool
  | plain s => s == "<<"
  | _ => false

/-- The entries of a mapping. -/
def entries? : Node → Option (List (Node × Node))
  | mapping entries => some entries
  | _ => none

/-- The entries that the value of a merge sign adds, the strongest last. -/
def mergedEntries? : Node → Option (List (Node × Node))
  | mapping entries => some entries
  | list items => (items.reverse.mapM entries?).map List.flatten
  | _ => none

/-- The entries of a mapping behind those that its merge signs add.  A sign whose value is no
mapping stays, and all others with it. -/
def withMerged (entries : List (Node × Node)) : List (Node × Node) :=
  let (merges, own) := entries.partition fun e => e.1.isMerge
  match merges.mapM fun e => e.2.mergedEntries? with
  | some merged => merged.flatten ++ own
  | none => merges ++ own

mutual

/-- The node with the entries of merged mappings in their place. -/
def expanded : Node → Node
  | list items => list (expandedItems items)
  | mapping entries => mapping (withMerged (expandedEntries entries))
  | node => node

/-- The items, each expanded. -/
def expandedItems : List Node → List Node
  | [] => []
  | item :: rest => expanded item :: expandedItems rest

/-- The entries, each expanded. -/
def expandedEntries : List (Node × Node) → List (Node × Node)
  | [] => []
  | (key, value) :: rest => (expanded key, expanded value) :: expandedEntries rest

end

/-! ### Values -/

/-- The scalar that a plain text stands for; the mark of a default value is a text as a key. -/
def scalarOf (depth : Nat) (asKey : Bool) (s : String) : Built Scalar :=
  match Plain.ofText s with
  | .value found => .done found
  | .improper fault => .failed depth (.improper fault)
  | .standard => if asKey then .done (.text s) else .failed depth .malformed
  | .merge => .failed depth .malformed

/-- The key that a node stands for; a collection is none. -/
def key (depth : Nat) : Node → Built Scalar
  | plain s => scalarOf depth true s
  | text s => .done (.text s)
  | list _ => .failed depth .malformed
  | mapping _ => .failed depth .malformed

mutual

/-- The value of a node without merge signs, which stands `depth` deep. -/
def build (depth : Nat) : Node → Built Data
  | plain s => (scalarOf depth false s).map .scalar
  | text s => .done (.text s)
  | list items => (buildItems (depth + 1) items).map .list
  | mapping entries =>
    (buildEntries (depth + 1) entries).map fun found =>
      .mapping (found.foldl (fun acc e => Data.putEntry acc e.1 e.2) [])

/-- The values of items. -/
def buildItems (depth : Nat) : List Node → Built (List Data)
  | [] => .done []
  | item :: rest => .both List.cons (build depth item) (buildItems depth rest)

/-- The keys and values of entries. -/
def buildEntries (depth : Nat) : List (Node × Node) → Built (List (Scalar × Data))
  | [] => .done []
  | (name, value) :: rest =>
    .both List.cons (.both Prod.mk (key depth name) (build depth value)) (buildEntries depth rest)

end

/-- The value that a node stands for. -/
def data (node : Node) : Except NodeFault Data :=
  (build 0 node.expanded).toExcept

end Node

end SchemaAtlas.Yaml

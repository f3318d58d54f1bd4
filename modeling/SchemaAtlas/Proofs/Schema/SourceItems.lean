import Mathlib.Data.List.Forall2
import SchemaAtlas.Proofs.Schema.BodyFields
import SchemaAtlas.Proofs.Schema.JoinedText
import SchemaAtlas.Proofs.Text.Words

/-!
# Texts made of declarations

A `SourceItem` is a line that opens no declaration or the text of a whole declaration, a `SourceBlock`:
its header, any lines without braces and a closing brace.  `numberedBlocks` are the blocks among
items, each with the number of its header.

Main statement: the text of well-formed items declares its blocks, one by one and in order, with the
line numbers, fields and values that stand there (`ofText_items`).
-/

namespace SchemaAtlas

open Text

/-- The word that opens a declaration. -/
def BlockKind.word : BlockKind → String
  | .model => "model"
  | .enumeration => "enum"

/-- A declaration as it is written. -/
structure SourceBlock where
  kind : BlockKind
  name : List Char
  body : List Line
deriving DecidableEq

namespace SourceBlock

def headerLine (b : SourceBlock) : Line :=
  b.kind.word.toList ++ [' '] ++ b.name ++ [' ', '\x7b']

def closingLine : Line := ['\x7d']

def lines (b : SourceBlock) : List Line :=
  b.headerLine :: (b.body ++ [closingLine])

/-- The name is a word, and there are no braces in the body. -/
structure WellFormed (b : SourceBlock) : Prop where
  name_ne_nil : b.name ≠ []
  name_isWord : ∀ c ∈ b.name, isWord c
  body_braceFree : ∀ line ∈ b.body, '\x7b' ∉ line ∧ '\x7d' ∉ line

-- With `all` the test goes through the name; a test of `∀ c ∈ b.name` may go through all characters.
instance (b : SourceBlock) : Decidable b.WellFormed :=
  decidable_of_iff
    (b.name ≠ [] ∧ b.name.all isWord ∧ ∀ line ∈ b.body, '\x7b' ∉ line ∧ '\x7d' ∉ line)
    ⟨fun ⟨h1, h2, h3⟩ => ⟨h1, List.all_eq_true.1 h2, h3⟩,
      fun ⟨h1, h2, h3⟩ => ⟨h1, List.all_eq_true.2 h2, h3⟩⟩

/-- The values that the lines of an enumeration hold. -/
def values (b : SourceBlock) : List String :=
  ((b.body.map trim).filter fun text => !text.isEmpty && !startsWith "//" text).map String.ofList

end SourceBlock

/-- A part of a schema text. -/
inductive SourceItem where
  | filler (line : Line)
  | block (b : SourceBlock)

namespace SourceItem

def lines : SourceItem → List Line
  | filler line => [line]
  | block b => b.lines

/-- A line between declarations opens none. -/
def WellFormed : SourceItem → Prop
  | filler line => Header.read? line = none
  | block b => b.WellFormed

instance : (item : SourceItem) → Decidable item.WellFormed
  | filler line => inferInstanceAs (Decidable (Header.read? line = none))
  | block b => inferInstanceAs (Decidable b.WellFormed)

end SourceItem

/-- The blocks among the items with the numbers of their headers, where the first line of the first
item has number `number`. -/
def numberedBlocks (number : Nat) : List SourceItem → List (Nat × SourceBlock)
  | [] => []
  | .filler _ :: rest => numberedBlocks (number + 1) rest
  | .block b :: rest => (number, b) :: numberedBlocks (number + b.lines.length) rest

/-! ### One block -/

namespace SourceBlock

variable {b : SourceBlock}

theorem trim_headerLine (b : SourceBlock) : trim b.headerLine = b.headerLine := by
  refine trim_eq_self (fun c hc => ?_) (fun c hc => ?_)
  · have hfirst : b.headerLine.head? = some 'm' ∨ b.headerLine.head? = some 'e' := by
      cases hkind : b.kind <;> simp [headerLine, hkind, BlockKind.word]
    obtain h | h := hfirst <;>
    · obtain rfl := Option.some.inj (h.symm.trans hc)
      decide
  · have hlast : b.headerLine.getLast? = some '\x7b' := by
      rw [headerLine, List.getLast?_append]
      rfl
    obtain rfl := Option.some.inj (hlast.symm.trans hc)
    decide

theorem name?_headerLine (h : b.WellFormed) :
    Header.name? b.kind.word b.headerLine = some (.ofList b.name) := by
  have hafter : after? b.kind.word b.headerLine = some (' ' :: (b.name ++ [' ', '\x7b'])) := by
    simp only [headerLine, List.append_assoc, after?_append, List.cons_append, List.nil_append]
  have hspan : spanWord (trimLeft (b.name ++ [' ', '\x7b'])) = (b.name, [' ', '\x7b']) := by
    rw [trimLeft_append_of_isWord h.name_ne_nil h.name_isWord]
    exact spanWord_append_cons h.name_isWord (by decide) ['\x7b']
  have hblank : isBlank ' ' = true := by decide
  simp only [Header.name?, hafter, hblank, hspan, if_true]
  split
  · exact absurd ‹_› h.name_ne_nil
  · rfl

theorem read?_headerLine (h : b.WellFormed) :
    Header.read? b.headerLine = some ⟨b.kind, .ofList b.name⟩ := by
  have hname := name?_headerLine h
  cases hkind : b.kind with
  | model =>
    rw [hkind] at hname
    simp only [Header.read?, trim_headerLine]
    rw [show "model" = BlockKind.word .model from rfl, hname]
  | enumeration =>
    rw [hkind] at hname
    have hmodel : Header.name? "model" b.headerLine = none := by
      simp [Header.name?, headerLine, hkind, BlockKind.word, after?]
    simp only [Header.read?, trim_headerLine, hmodel]
    rw [show "enum" = BlockKind.word .enumeration from rfl, hname]

end SourceBlock

namespace Block

theorem balance_of_braceFree {line : Line} (h : '\x7b' ∉ line ∧ '\x7d' ∉ line) :
    balance line = 0 := by
  rw [balance, List.count_eq_zero.2 h.1, List.count_eq_zero.2 h.2]
  rfl

/-- A line that closes one brace ends the body behind lines that leave the depth as it is. -/
theorem bodyLength?_append_closing {body : List Line} (h : ∀ line ∈ body, balance line = 0)
    {closing : Line} (hclosing : balance closing = -1) (rest : List Line) :
    bodyLength? 1 (body ++ closing :: rest) = some body.length := by
  induction body with
  | nil =>
    simp only [List.nil_append, bodyLength?, hclosing]
    rfl
  | cons line body ih =>
    obtain ⟨hline, hbody⟩ := List.forall_mem_cons.1 h
    simp only [List.cons_append, bodyLength?, hline, Int.add_zero, ih hbody]
    rfl

end Block

namespace SourceBlock

variable {b : SourceBlock}

theorem headerDepth_headerLine (h : b.WellFormed) : Block.headerDepth b.headerLine = 1 := by
  have hbraces : ∀ c, ¬ isWord c → b.name.count c = 0 :=
    fun c hc => List.count_eq_zero.2 fun hmem => hc (h.name_isWord c hmem)
  have hopen : b.name.count '\x7b' = 0 := hbraces _ (by decide)
  have hclose : b.name.count '\x7d' = 0 := hbraces _ (by decide)
  have hcontains : b.headerLine.contains '\x7b' := by simp [headerLine]
  rw [Block.headerDepth, if_pos hcontains, Block.balance]
  cases hkind : b.kind <;> simp [headerLine, hkind, BlockKind.word, hopen, hclose]

theorem read?_lines (h : b.WellFormed) (rest : List Line) :
    Block.read? b.headerLine (b.body ++ closingLine :: rest) = some ⟨b.body, b.body.length + 1⟩ := by
  have hbody : ∀ line ∈ b.body, Block.balance line = 0 :=
    fun line hline => Block.balance_of_braceFree (h.body_braceFree line hline)
  have hclosing : Block.balance closingLine = -1 := by decide
  have hlength := Block.bodyLength?_append_closing hbody hclosing rest
  rw [Block.read?, headerDepth_headerLine h, if_neg (by decide), hlength, Option.map_some,
    List.take_left]

/-- The block as it is placed when its header has the given number. -/
def placed (number : Nat) (b : SourceBlock) : PlacedBlock :=
  ⟨number, ⟨b.kind, .ofList b.name⟩, ⟨b.body, b.body.length + 1⟩⟩

end SourceBlock

/-! ### All items -/

theorem placedFrom_filler {line : Line} (h : Header.read? line = none) (number : Nat)
    (rest : List Line) : placedFrom number 0 (line :: rest) = placedFrom (number + 1) 0 rest := by
  simp only [placedFrom, h]

theorem placedFrom_block {b : SourceBlock} (h : b.WellFormed) (number : Nat) (rest : List Line) :
    placedFrom number 0 (b.lines ++ rest) =
      b.placed number :: placedFrom (number + b.lines.length) 0 rest := by
  have hlines : b.lines ++ rest = b.headerLine :: (b.body ++ SourceBlock.closingLine :: rest) := by
    simp [SourceBlock.lines]
  have hdrop : (b.body ++ SourceBlock.closingLine :: rest).drop (b.body.length + 1) = rest := by
    simp
  have hlength : number + 1 + (b.body.length + 1) = number + b.lines.length := by
    simp only [SourceBlock.lines, List.length_cons, List.length_append, List.length_nil]
    omega
  rw [hlines]
  simp only [placedFrom, SourceBlock.read?_headerLine h, SourceBlock.read?_lines h]
  rw [placedFrom_eq_drop, hdrop, hlength]
  rfl

theorem placedFrom_items {items : List SourceItem} (h : ∀ item ∈ items, item.WellFormed)
    (number : Nat) :
    placedFrom number 0 (items.flatMap SourceItem.lines) =
      (numberedBlocks number items).map fun p => p.2.placed p.1 := by
  induction items generalizing number with
  | nil => rfl
  | cons item items ih =>
    obtain ⟨hitem, hitems⟩ := List.forall_mem_cons.1 h
    rw [List.flatMap_cons]
    cases item with
    | filler line =>
      rw [SourceItem.lines, List.singleton_append, placedFrom_filler hitem, ih hitems]
      rfl
    | block b =>
      rw [SourceItem.lines, placedFrom_block hitem, ih hitems]
      rfl

/-! ### What the items declare -/

/-- The blocks of one kind, numbered from the first line on. -/
def blocksOf (kind : BlockKind) (items : List SourceItem) : List (Nat × SourceBlock) :=
  (numberedBlocks 1 items).filter fun p => p.2.kind = kind

/-- The model is what is written in the lines as a block whose header has number `p.1`. -/
structure Model.WrittenAs (ls : List Line) (p : Nat × SourceBlock) (m : Model) : Prop where
  name : m.name = .ofList p.2.name
  line : m.line = p.1
  endLine : m.endLine = p.1 + p.2.body.length + 1
  header : ls[m.line - 1]? = some p.2.headerLine
  closing : ls[m.endLine - 1]? = some SourceBlock.closingLine
  fields : m.fields.map Field.withoutComment =
    plainFields (declaredEnumerations ls) (p.1 + 1) p.2.body

theorem eq_append_of_mem_numberedBlocks {number : Nat} {items : List SourceItem}
    {p : Nat × SourceBlock} (h : p ∈ numberedBlocks number items) :
    ∃ front back, items.flatMap SourceItem.lines = front ++ p.2.lines ++ back ∧
      p.1 = number + front.length := by
  fun_induction numberedBlocks number items with
  | case1 => simp at h
  | case2 number line rest ih =>
    obtain ⟨front, back, heq, hnumber⟩ := ih h
    refine ⟨line :: front, back, ?_, ?_⟩
    · simp [SourceItem.lines, heq]
    · rw [hnumber, List.length_cons]
      omega
  | case3 number b rest ih =>
    obtain rfl | h := List.mem_cons.1 h
    · exact ⟨[], rest.flatMap SourceItem.lines, by simp [SourceItem.lines], rfl⟩
    · obtain ⟨front, back, heq, hnumber⟩ := ih h
      refine ⟨b.lines ++ front, back, ?_, ?_⟩
      · simp [SourceItem.lines, heq]
      · rw [hnumber, List.length_append, Nat.add_assoc]

/-- The model that a block declares is written as the block. -/
theorem writtenAs_ofBlock {items : List SourceItem} {p : Nat × SourceBlock}
    (h : p ∈ numberedBlocks 1 items) :
    (Model.ofBlock (declaredEnumerations (items.flatMap SourceItem.lines)) p.1 (.ofList p.2.name)
      ⟨p.2.body, p.2.body.length + 1⟩).WrittenAs (items.flatMap SourceItem.lines) p := by
  obtain ⟨front, back, heq, hnumber⟩ := eq_append_of_mem_numberedBlocks h
  refine ⟨rfl, rfl, rfl, ?_, ?_, map_withoutComment_fieldsFrom ..⟩
  · show (items.flatMap SourceItem.lines)[p.1 - 1]? = _
    rw [heq, hnumber, Nat.add_sub_cancel_left]
    simp [SourceBlock.lines]
  · show (items.flatMap SourceItem.lines)[p.1 + (p.2.body.length + 1) - 1]? = _
    have hindex : p.1 + (p.2.body.length + 1) - 1 = front.length + (p.2.body.length + 1) := by
      omega
    rw [heq, hindex, List.append_assoc, List.getElem?_append_right (Nat.le_add_right _ _),
      Nat.add_sub_cancel_left]
    simp [SourceBlock.lines]

theorem filterMap_valueLine? (b : SourceBlock) : b.body.filterMap valueLine? = b.values := by
  unfold SourceBlock.values
  induction b.body with
  | nil => rfl
  | cons line rest ih =>
    rw [List.filterMap_cons, ih, List.map_cons, List.filter_cons, ← Bool.not_or]
    simp only [valueLine?]
    cases (trim line).isEmpty || startsWith "//" (trim line) <;> rfl

/-- To read off the placed blocks of one kind only is to read off the blocks of that kind. -/
theorem filterMap_placedFrom_items {α : Type} {items : List SourceItem}
    (h : ∀ item ∈ items, item.WellFormed) {kind : BlockKind} {read? : PlacedBlock → Option α}
    {read : Nat × SourceBlock → α}
    (hread : ∀ p, read? (p.2.placed p.1) = if p.2.kind = kind then some (read p) else none) :
    (placedFrom 1 0 (items.flatMap SourceItem.lines)).filterMap read? =
      (blocksOf kind items).map read := by
  rw [placedFrom_items h, List.filterMap_map, blocksOf, ← List.filterMap_eq_map,
    List.filterMap_filter]
  congr 1
  funext p
  simp only [Function.comp_apply, hread, decide_eq_true_eq]

theorem models_items {items : List SourceItem} (h : ∀ item ∈ items, item.WellFormed) :
    (Schema.ofLines (items.flatMap SourceItem.lines)).models =
      (blocksOf .model items).map fun p =>
        Model.ofBlock (declaredEnumerations (items.flatMap SourceItem.lines)) p.1
          (.ofList p.2.name) ⟨p.2.body, p.2.body.length + 1⟩ := by
  rw [Schema.models_ofLines]
  refine filterMap_placedFrom_items h fun p => ?_
  cases hkind : p.2.kind <;>
    simp [SourceBlock.placed, PlacedBlock.declaration, Declaration.ofBlock, Declaration.model?, hkind]

theorem enumerations_items {items : List SourceItem} (h : ∀ item ∈ items, item.WellFormed) :
    (Schema.ofLines (items.flatMap SourceItem.lines)).enumerations =
      (blocksOf .enumeration items).map fun p => ⟨.ofList p.2.name, p.2.values⟩ := by
  rw [Schema.enumerations_ofLines]
  refine filterMap_placedFrom_items h fun p => ?_
  cases hkind : p.2.kind <;>
    simp [SourceBlock.placed, PlacedBlock.declaration, Declaration.ofBlock,
      Declaration.enumeration?, Enumeration.ofBlock, filterMap_valueLine?, hkind]

/-- A text of well-formed items declares what its blocks say, in their order and nothing else. -/
theorem ofText_items (items : List SourceItem) (hitems : ∀ item ∈ items, item.WellFormed)
    (hends : ∀ line ∈ items.flatMap SourceItem.lines, ∀ c ∈ line, ¬ isLineEnd c) :
    let ls := items.flatMap SourceItem.lines
    let schema := Schema.ofText (joined "\n" (ls.map String.ofList))
    List.Forall₂ (Model.WrittenAs ls) (blocksOf .model items) schema.models ∧
      schema.enumerations =
        (blocksOf .enumeration items).map fun p => ⟨.ofList p.2.name, p.2.values⟩ := by
  intro ls schema
  have hschema : schema = Schema.ofLines ls := Schema.ofText_joined hends
  rw [hschema]
  refine ⟨?_, enumerations_items hitems⟩
  rw [models_items hitems, List.forall₂_map_right_iff, List.forall₂_same]
  exact fun p hp => writtenAs_ofBlock (List.mem_of_mem_filter hp)

/-- A configuration line, a model with a comment in it, a blank line and an enumeration. -/
theorem ofText_items_user :
    let user : SourceBlock := ⟨.model, "User".toList,
      ["  id Int @id".toList, "  // access".toList, "  role Role".toList]⟩
    let role : SourceBlock := ⟨.enumeration, "Role".toList,
      ["  ADMIN".toList, [], "  GUEST".toList]⟩
    let items := [.filler "generator client \x7b".toList, .block user, .filler [], .block role]
    let ls := items.flatMap SourceItem.lines
    let schema := Schema.ofText (joined "\n" (ls.map String.ofList))
    (∃ m, schema.models = [m] ∧ m.WrittenAs ls (2, user)) ∧
      schema.enumerations = [⟨"Role", ["ADMIN", "GUEST"]⟩] := by
  intro user role items ls schema
  have hitems : ∀ item ∈ items, item.WellFormed := by decide +kernel
  have hall : ls.all fun line => line.all fun c => !isLineEnd c := by decide +kernel
  have hends : ∀ line ∈ ls, ∀ c ∈ line, ¬ isLineEnd c := by
    intro line hline c hc
    have h := List.all_eq_true.1 (List.all_eq_true.1 hall line hline) c hc
    rwa [Bool.not_eq_true', ← Bool.not_eq_true] at h
  have huser : blocksOf .model items = [(2, user)] := by decide +kernel
  have hrole : ((blocksOf .enumeration items).map fun p =>
      (⟨.ofList p.2.name, p.2.values⟩ : Enumeration)) = [⟨"Role", ["ADMIN", "GUEST"]⟩] := by
    decide +kernel
  obtain ⟨hmodels, henumerations⟩ := ofText_items items hitems hends
  rw [huser] at hmodels
  obtain ⟨m, _, hm, hnil, heq⟩ := List.forall₂_cons_left_iff.1 hmodels
  obtain rfl := List.forall₂_nil_left_iff.1 hnil
  exact ⟨⟨m, heq, hm⟩, henumerations.trans hrole⟩

end SchemaAtlas

import SchemaAtlas.Proofs.Schema.LinePositions

/-!
# How deep a block is at each of its lines

`Block.depthAfter` counts the braces that are open behind a line, from the header of the block on.  A
block ends at the first line behind which none is open (`Block.ClosesAt`), and a block for which there
is no such line is never closed (`Block.StaysOpen`).

A schema is read in passes.  `readPass?` is one of them: it reads one line, or a block as `Block.at?`
finds it, and says where the next pass begins; and `readIn?` makes a number of passes.

Main statement: `Block.at?` finds where a block closes, so that a pass leads forward within the lines,
and no more passes are made than there are lines, in which all declarations are read
(`blocks_close_and_reading_ends`).
-/

namespace SchemaAtlas

namespace Block

/-- The braces that are open behind `n` lines, where `depth` are open in front of them. -/
def depthBehind (depth : Int) (lines : List Line) (n : Nat) : Int :=
  (lines.take n).foldl (fun depth line => depth + balance line) depth

/-- The braces of the block with its header on line `i` that are open behind line `j`. -/
def depthAfter (lines : List Line) (i : Fin lines.length) (j : Nat) : Int :=
  depthBehind (headerDepth lines[i]) (lines.drop (i + 1)) (j - i)

/-- The block with its header on line `i` is never closed. -/
def StaysOpen (lines : List Line) (i : Fin lines.length) : Prop :=
  ∀ j : Nat, i ≤ j → j < lines.length → 0 < depthAfter lines i j

/-- Line `k` is the first one behind which no brace of the block is open. -/
structure ClosesAt (lines : List Line) (i : Fin lines.length) (k : Nat) : Prop where
  le : i ≤ k
  lt_length : k < lines.length
  closed : depthAfter lines i k ≤ 0
  isOpen : ∀ j : Nat, i ≤ j → j < k → 0 < depthAfter lines i j

/-! ### The depth behind lines -/

@[simp] theorem depthBehind_zero (depth : Int) (lines : List Line) :
    depthBehind depth lines 0 = depth :=
  rfl

@[simp] theorem depthBehind_cons_succ (depth : Int) (line : Line) (rest : List Line) (n : Nat) :
    depthBehind depth (line :: rest) (n + 1) = depthBehind (depth + balance line) rest n :=
  rfl

theorem bodyLength?_eq_none_iff {depth : Int} {lines : List Line} :
    bodyLength? depth lines = none ↔ ∀ n < lines.length, 0 < depthBehind depth lines (n + 1) := by
  induction lines generalizing depth with
  | nil => simp [bodyLength?]
  | cons line rest ih =>
    rw [bodyLength?, List.length_cons, Nat.forall_lt_succ_left]
    simp only [depthBehind_cons_succ, depthBehind_zero]
    by_cases hclosed : depth + balance line ≤ 0
    · simp [if_pos hclosed, Int.not_lt.2 hclosed]
    · rw [if_neg hclosed, Option.map_eq_none_iff, ih]
      exact (and_iff_right (Int.not_le.1 hclosed)).symm

theorem depthBehind_of_bodyLength? {depth : Int} {lines : List Line} {n : Nat}
    (h : bodyLength? depth lines = some n) :
    depthBehind depth lines (n + 1) ≤ 0 ∧ ∀ m < n, 0 < depthBehind depth lines (m + 1) := by
  induction lines generalizing depth n with
  | nil => cases h
  | cons line rest ih =>
    rw [bodyLength?] at h
    by_cases hclosed : depth + balance line ≤ 0
    · rw [if_pos hclosed] at h
      obtain rfl := Option.some.inj h
      simpa using hclosed
    · rw [if_neg hclosed] at h
      obtain ⟨n, hn, rfl⟩ := Option.map_eq_some_iff.1 h
      obtain ⟨hle, hlt⟩ := ih hn
      refine ⟨by simpa using hle, ?_⟩
      rw [Nat.forall_lt_succ_left]
      exact ⟨by simpa using hclosed, fun m hm => by simpa using hlt m hm⟩

/-! ### Where a block closes -/

/-- A block is never closed if braces are open behind its header and behind every line. -/
theorem read?_eq_none_iff {header : Line} {rest : List Line} :
    read? header rest = none ↔ ∀ n ≤ rest.length, 0 < depthBehind (headerDepth header) rest n := by
  have hcases : (∀ n ≤ rest.length, 0 < depthBehind (headerDepth header) rest n) ↔
      0 < headerDepth header ∧
        ∀ n < rest.length, 0 < depthBehind (headerDepth header) rest (n + 1) := by
    simp only [Nat.le_iff_lt_add_one, Nat.forall_lt_succ_left, depthBehind_zero]
  rw [hcases, read?]
  by_cases hclosed : headerDepth header ≤ 0
  · simp [if_pos hclosed, Int.not_lt.2 hclosed]
  · rw [if_neg hclosed, Option.map_eq_none_iff, bodyLength?_eq_none_iff]
    exact (and_iff_right (Int.not_le.1 hclosed)).symm

/-- A block reaches up to the first line behind which no brace is open. -/
structure IsClosed (header : Line) (rest : List Line) (block : Block) : Prop where
  closed : depthBehind (headerDepth header) rest block.extent ≤ 0
  isOpen : ∀ n < block.extent, 0 < depthBehind (headerDepth header) rest n
  body : block.body = rest.take (block.extent - 1)

theorem isClosed_of_read? {header : Line} {rest : List Line} {block : Block}
    (h : read? header rest = some block) : IsClosed header rest block := by
  rw [read?] at h
  by_cases hclosed : headerDepth header ≤ 0
  · rw [if_pos hclosed] at h
    obtain rfl := Option.some.inj h
    exact ⟨by simpa using hclosed, by simp, by simp⟩
  · rw [if_neg hclosed] at h
    obtain ⟨n, hn, rfl⟩ := Option.map_eq_some_iff.1 h
    obtain ⟨hle, hlt⟩ := depthBehind_of_bodyLength? hn
    refine ⟨hle, ?_, rfl⟩
    rw [Nat.forall_lt_succ_left]
    exact ⟨by simpa using hclosed, hlt⟩

/-! ### Blocks by their positions -/

variable {lines : List Line} {i : Fin lines.length}

/-- The block with its header on line `i` is the one that is read from the lines behind. -/
theorem at?_eq_ok (lines : List Line) (i : Fin lines.length) :
    at? lines (i : Nat) = .ok ((read? lines[i] (lines.drop (i + 1))).map fun block =>
      (block, (i : Int) + 1 + block.extent)) := by
  rw [at?_natCast, blockAt_eq i.isLt]
  rfl

theorem at?_eq_none_iff : at? lines (i : Nat) = .ok none ↔ StaysOpen lines i := by
  have hlines : ∀ n, n ≤ (lines.drop (i + 1)).length ↔ (i : Nat) + n < lines.length := by
    intro n
    rw [List.length_drop]
    omega
  rw [at?_eq_ok, Except.ok.injEq, Option.map_eq_none_iff, read?_eq_none_iff]
  constructor
  · intro h j hij hj
    exact h (j - i) ((hlines _).2 (by omega))
  · intro h n hn
    have hdepth := h (i + n) (Nat.le_add_right _ _) ((hlines n).1 hn)
    rwa [depthAfter, Nat.add_sub_cancel_left] at hdepth

/-- A block ends at the line at which it closes, and its body stands between the header and that
line. -/
theorem closesAt_of_at? {block : Block} {next : Int}
    (h : at? lines (i : Nat) = .ok (some (block, next))) :
    ClosesAt lines i (i + block.extent) ∧ next = i + block.extent + 1 ∧
      block.body = (lines.drop (i + 1)).take (block.extent - 1) := by
  rw [at?_eq_ok, Except.ok.injEq] at h
  obtain ⟨block, hread, heq⟩ := Option.map_eq_some_iff.1 h
  obtain ⟨rfl, rfl⟩ := Prod.mk.inj heq
  have hclosed := isClosed_of_read? hread
  have hle := extent_le hread
  rw [List.length_drop] at hle
  refine ⟨⟨Nat.le_add_right _ _, by omega, ?_, ?_⟩, by omega, hclosed.body⟩
  · rw [depthAfter, Nat.add_sub_cancel_left]
    exact hclosed.closed
  · intro j hij hj
    exact hclosed.isOpen (j - i) (by omega)

theorem exists_closesAt (h : ¬ StaysOpen lines i) : ∃ k, ClosesAt lines i k ∧
    at? lines (i : Nat) =
      .ok (some (⟨(lines.drop (i + 1)).take (k - i - 1), k - i⟩, (k : Int) + 1)) := by
  rw [← at?_eq_none_iff, at?_eq_ok, Except.ok.injEq] at h
  obtain ⟨⟨block, next⟩, hfound⟩ := Option.ne_none_iff_exists'.1 h
  have hat : at? lines (i : Nat) = .ok (some (block, next)) := by
    rw [at?_eq_ok, hfound]
  obtain ⟨hcloses, rfl, hbody⟩ := closesAt_of_at? hat
  refine ⟨i + block.extent, hcloses, ?_⟩
  rw [hat, Nat.add_sub_cancel_left, ← hbody]
  rfl

end Block

/-! ### Reading in passes -/

/-- A pass of reading from position `i` on: what it declares, and where the next pass begins.  There
is none behind the last line and at a block that is never closed. -/
def readPass? (enums : List String) (lines : List Line) (i : Nat) :
    Option (List Declaration × Nat) :=
  match lines[i]? with
  | none => none
  | some line =>
    match Header.read? line with
    | none => some ([], i + 1)
    | some header =>
      match Block.at? lines i with
      | .ok (some (block, next)) => some ([.ofBlock enums (i + 1) header block], next.toNat)
      | _ => none

/-- The declarations from position `i` on, if no more than `passes` passes are needed to read
them. -/
def readIn? (enums : List String) (lines : List Line) : Nat → Nat → Option (List Declaration)
  | 0, i => if (readPass? enums lines i).isNone then some [] else none
  | passes + 1, i =>
    match readPass? enums lines i with
    | none => some []
    | some (declared, next) => (readIn? enums lines passes next).map (declared ++ ·)

variable {enums : List String} {lines : List Line}

theorem readPass?_eq_none {i : Nat} (hi : lines.length ≤ i) : readPass? enums lines i = none := by
  rw [readPass?, List.getElem?_eq_none hi]

theorem readPass?_eq (enums : List String) {i : Nat} (hi : i < lines.length) :
    readPass? enums lines i =
      match Header.read? lines[i] with
      | none => some ([], i + 1)
      | some header => (Block.read? lines[i] (lines.drop (i + 1))).map fun block =>
        ([.ofBlock enums (i + 1) header block], i + 1 + block.extent) := by
  have hat : Block.at? lines i = _ := Block.at?_eq_ok lines ⟨i, hi⟩
  rw [readPass?, List.getElem?_eq_getElem hi]
  cases hheader : Header.read? lines[i] with
  | none => simp only [hheader]
  | some header =>
    simp only [hheader, hat, Fin.getElem_fin]
    cases Block.read? lines[i] (lines.drop (i + 1)) with
    | none => rfl
    | some block => rfl

/-- A pass leads forward, and not beyond the lines. -/
theorem lt_of_readPass? {i next : Nat} {declared : List Declaration}
    (h : readPass? enums lines i = some (declared, next)) : i < next ∧ next ≤ lines.length := by
  by_cases hi : i < lines.length
  · rw [readPass?_eq enums hi] at h
    cases hheader : Header.read? lines[i] with
    | none =>
      obtain ⟨-, rfl⟩ : [] = declared ∧ i + 1 = next := by simpa [hheader] using h
      omega
    | some header =>
      rw [hheader] at h
      obtain ⟨block, hread, heq⟩ := Option.map_eq_some_iff.1 h
      obtain ⟨-, rfl⟩ := Prod.mk.inj heq
      have hle := Block.extent_le hread
      rw [List.length_drop] at hle
      omega
  · rw [readPass?_eq_none (Nat.le_of_not_lt hi)] at h
    cases h

/-- The reading of a schema goes on pass by pass. -/
theorem declarationsFrom_eq_readPass? (enums : List String) (lines : List Line) (i : Nat) :
    declarationsFrom enums (i + 1) 0 (lines.drop i) =
      match readPass? enums lines i with
      | none => []
      | some (declared, next) =>
        declared ++ declarationsFrom enums (next + 1) 0 (lines.drop next) := by
  by_cases hi : i < lines.length
  · rw [readPass?_eq enums hi, List.drop_eq_getElem_cons hi, declarationsFrom]
    cases hheader : Header.read? lines[i] with
    | none => rfl
    | some header =>
      cases hread : Block.read? lines[i] (lines.drop (i + 1)) with
      | none => rfl
      | some block =>
        simp only [Option.map_some, declarationsFrom_behind]
        rfl
  · have hle := Nat.le_of_not_lt hi
    rw [readPass?_eq_none hle, List.drop_of_length_le hle]
    rfl

/-- No more passes are needed than there are lines left. -/
theorem readIn?_eq {passes i : Nat} (h : lines.length ≤ i + passes) :
    readIn? enums lines passes i = some (declarationsFrom enums (i + 1) 0 (lines.drop i)) := by
  induction passes generalizing i with
  | zero =>
    have hnone : readPass? enums lines i = none := readPass?_eq_none h
    rw [declarationsFrom_eq_readPass?, readIn?, hnone]
    rfl
  | succ passes ih =>
    rw [declarationsFrom_eq_readPass?, readIn?]
    cases hpass : readPass? enums lines i with
    | none => rfl
    | some pass =>
      obtain ⟨declared, next⟩ := pass
      have hlt := (lt_of_readPass? hpass).1
      simp only [ih (show lines.length ≤ next + passes by omega), Option.map_some]

/-- A block ends at the first line behind which none of its braces is open, or it has no end if there
is no such line; every pass leads forward within the lines, and in no more passes than there are lines
the schema is read. -/
theorem blocks_close_and_reading_ends (lines : List Line) :
    (∀ i : Fin lines.length,
      (Block.at? lines (i : Nat) = .ok none ↔ Block.StaysOpen lines i) ∧
      (¬ Block.StaysOpen lines i → ∃ k, Block.ClosesAt lines i k ∧ Block.at? lines (i : Nat) =
        .ok (some (⟨(lines.drop (i + 1)).take (k - i - 1), k - i⟩, (k : Int) + 1))) ∧
      ∀ block next, Block.at? lines (i : Nat) = .ok (some (block, next)) →
        (i : Int) < next ∧ next ≤ lines.length) ∧
    (∀ enums i declared next, readPass? enums lines i = some (declared, next) →
      i < next ∧ next ≤ lines.length) ∧
    ∃ declared, readIn? (declaredEnumerations lines) lines lines.length 0 = some declared ∧
      Schema.ofLines lines =
        ⟨declared.filterMap Declaration.model?, declared.filterMap Declaration.enumeration?⟩ := by
  refine ⟨fun i => ⟨Block.at?_eq_none_iff, Block.exists_closesAt, fun block next hat => ?_⟩,
    fun enums i declared next => lt_of_readPass?, ?_⟩
  · obtain ⟨hcloses, rfl, -⟩ := Block.closesAt_of_at? hat
    have hlt := hcloses.lt_length
    omega
  · exact ⟨_, readIn?_eq (Nat.le_of_eq (Nat.zero_add _).symm), rfl⟩

/-- A block that closes two braces on its last line, in front of one that is never closed. -/
theorem blocks_close_in_front_of_open_block :
    let lines := ["model A \x7b\x7b\x7b\x7d", "  a Json // \x7d\x7b", "\x7d\x7d", "enum E", "  X"].map
      String.toList
    ¬ Block.StaysOpen lines ⟨0, by decide⟩ ∧
      (∃ k, Block.ClosesAt lines ⟨0, by decide⟩ k ∧ Block.at? lines (0 : Nat) =
        .ok (some (⟨(lines.drop 1).take (k - 0 - 1), k - 0⟩, (k : Int) + 1))) ∧
      Block.StaysOpen lines ⟨3, by decide⟩ ∧ Block.at? lines (3 : Nat) = .ok none ∧
      readPass? [] lines 3 = none ∧ (readPass? [] lines 0).map Prod.snd = some 3 := by
  intro lines
  obtain ⟨hblocks, -, -⟩ := blocks_close_and_reading_ends lines
  have hcloses : ¬ Block.StaysOpen lines ⟨0, by decide⟩ := fun h =>
    absurd (h 2 (by decide) (by decide)) (by decide)
  have hopen : Block.StaysOpen lines ⟨3, by decide⟩ := by
    intro j hle hlt
    obtain rfl | rfl : j = 3 ∨ j = 4 := by
      have hlength : lines.length = 5 := rfl
      have hthree : 3 ≤ j := hle
      omega
    · decide
    · decide
  exact ⟨hcloses, (hblocks ⟨0, by decide⟩).2.1 hcloses, hopen,
    (hblocks ⟨3, by decide⟩).1.2 hopen, by decide +kernel, by decide +kernel⟩

end SchemaAtlas

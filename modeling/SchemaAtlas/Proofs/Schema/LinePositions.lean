import SchemaAtlas.Proofs.Schema.Placement

/-!
# Reading a schema by positions

`declarationsAt` reads the lines of a schema by their positions: it looks up one line after another,
those of a block until its braces are closed, and goes on behind each block.  A look-up fails where
there is no line.  The block at a position is the one that `Block.at?` finds (`Block.at?_natCast`).

Main statement: no look-up fails, and what is read are the declarations (`declarationsAt_eq`).
-/

namespace SchemaAtlas

/-- The line at a position. -/
def lineAt (lines : List Line) (i : Nat) : Except Block.PositionFault Line :=
  match lines[i]? with
  | some line => .ok line
  | none => .error .outOfRange

theorem lineAt_eq_ok {lines : List Line} {i : Nat} (h : i < lines.length) :
    lineAt lines i = .ok lines[i] := by
  rw [lineAt, List.getElem?_eq_getElem h]

theorem getElem_of_lineAt_eq_ok {lines : List Line} {i : Nat} {line : Line} (h : i < lines.length)
    (hline : lineAt lines i = .ok line) : lines[i] = line := by
  rw [lineAt_eq_ok h] at hline
  exact Except.ok.inj hline

/-! ### Blocks -/

namespace Block

/-- The lines from a position on up to the one that closes `depth` open braces, if there is one. -/
def bodyAt (lines : List Line) (depth : Int) (i : Nat) :
    Except PositionFault (Option (List Line)) :=
  if i < lines.length then
    match lineAt lines i with
    | .error fault => .error fault
    | .ok line =>
      if depth + balance line ≤ 0 then .ok (some [])
      else (bodyAt lines (depth + balance line) (i + 1)).map (Option.map (line :: ·))
  else .ok none
termination_by lines.length - i

/-- The block of the header at a position. -/
def blockAt (lines : List Line) (i : Nat) : Except PositionFault (Option Block) :=
  match lineAt lines i with
  | .error fault => .error fault
  | .ok header =>
    if headerDepth header ≤ 0 then .ok (some ⟨[], 0⟩)
    else (bodyAt lines (headerDepth header) (i + 1)).map
      (Option.map fun body => ⟨body, body.length + 1⟩)

theorem bodyAt_eq (lines : List Line) (depth : Int) (i : Nat) :
    bodyAt lines depth i =
      .ok ((bodyLength? depth (lines.drop i)).map fun n => (lines.drop i).take n) := by
  fun_induction bodyAt lines depth i with
  | case1 depth i hi fault hline => simp [lineAt_eq_ok hi] at hline
  | case2 depth i hi line hline hclosed =>
    obtain rfl := getElem_of_lineAt_eq_ok hi hline
    rw [List.drop_eq_getElem_cons hi, bodyLength?, if_pos hclosed]
    rfl
  | case3 depth i hi line hline hopen ih =>
    obtain rfl := getElem_of_lineAt_eq_ok hi hline
    rw [ih, List.drop_eq_getElem_cons hi, bodyLength?, if_neg hopen, Except.map, Option.map_map,
      Option.map_map]
    rfl
  | case4 depth i hi =>
    rw [List.drop_of_length_le (by omega)]
    rfl

/-- Looking up line by line finds the block that is read from the lines behind the header. -/
theorem blockAt_eq {lines : List Line} {i : Nat} (hi : i < lines.length) :
    blockAt lines i = .ok (read? lines[i] (lines.drop (i + 1))) := by
  simp only [blockAt, lineAt_eq_ok hi, read?]
  split
  · rfl
  · rw [bodyAt_eq, Except.map, Option.map_map, Except.ok.injEq]
    refine Option.map_congr fun n hn => ?_
    have hlength : ((lines.drop (i + 1)).take n).length = n :=
      List.length_take_of_le (Nat.le_of_lt (bodyLength?_lt hn))
    simp only [Function.comp_apply, hlength]

/-- The block at a position that is counted from the start. -/
theorem at?_natCast (lines : List Line) (i : Nat) :
    at? lines i = (blockAt lines i).map (Option.map fun block =>
      (block, (i : Int) + 1 + block.extent)) := by
  have hstart : ¬ (i : Int) < 0 := by omega
  by_cases hi : i < lines.length
  · have hposition : position? lines.length i = some i := by
      simp [position?, hstart, hi]
    have hbehind : linesBehind lines i = lines.drop (i + 1) := by
      rw [linesBehind, if_neg (by omega)]
      rfl
    rw [at?, hposition, Option.bind_some, List.getElem?_eq_getElem hi, hbehind, blockAt_eq hi]
    rfl
  · have hposition : position? lines.length i = none := by
      simp [position?, hstart, hi]
    have hnone : lines[i]? = none := List.getElem?_eq_none (by omega)
    rw [at?, hposition, blockAt, lineAt, hnone]
    rfl

end Block

/-! ### Declarations -/

/-- The declarations on the lines from a position on. -/
def declarationsAt (enums : List String) (lines : List Line) (i : Nat) :
    Except Block.PositionFault (List Declaration) :=
  if i < lines.length then
    match lineAt lines i with
    | .error fault => .error fault
    | .ok line =>
      match Header.read? line with
      | none => declarationsAt enums lines (i + 1)
      | some header =>
        match Block.blockAt lines i with
        | .error fault => .error fault
        | .ok none => .ok []
        | .ok (some block) =>
          (declarationsAt enums lines (i + 1 + block.extent)).map
            (.ofBlock enums (i + 1) header block :: ·)
  else .ok []
termination_by lines.length - i

/-- The lines of a block that has been read are passed over. -/
theorem declarationsFrom_eq_drop (enums : List String) (number inside : Nat) (lines : List Line) :
    declarationsFrom enums number inside lines =
      declarationsFrom enums (number + inside) 0 (lines.drop inside) := by
  rw [declarationsFrom_eq_map, placedFrom_eq_drop, declarationsFrom_eq_map]

theorem declarationsFrom_behind (enums : List String) (lines : List Line) (i extent : Nat) :
    declarationsFrom enums (i + 1 + 1) extent (lines.drop (i + 1)) =
      declarationsFrom enums (i + 1 + extent + 1) 0 (lines.drop (i + 1 + extent)) := by
  rw [declarationsFrom_eq_drop, List.drop_drop, Nat.add_right_comm (i + 1)]

/-- Reading by positions finds a line at each of them, and what it reads are the declarations. -/
theorem declarationsAt_eq (enums : List String) (lines : List Line) (i : Nat) :
    declarationsAt enums lines i = .ok (declarationsFrom enums (i + 1) 0 (lines.drop i)) := by
  fun_induction declarationsAt enums lines i with
  | case1 i hi fault hline => simp [lineAt_eq_ok hi] at hline
  | case2 i hi line hline hheader ih =>
    obtain rfl := getElem_of_lineAt_eq_ok hi hline
    rw [ih, List.drop_eq_getElem_cons hi, declarationsFrom, hheader]
  | case3 i hi line hline header hheader fault hblock =>
    simp [Block.blockAt_eq hi] at hblock
  | case4 i hi line hline header hheader hblock =>
    obtain rfl := getElem_of_lineAt_eq_ok hi hline
    rw [Block.blockAt_eq hi, Except.ok.injEq] at hblock
    rw [List.drop_eq_getElem_cons hi, declarationsFrom, hheader]
    simp only [hblock]
  | case5 i hi line hline header hheader block hblock ih =>
    obtain rfl := getElem_of_lineAt_eq_ok hi hline
    rw [Block.blockAt_eq hi, Except.ok.injEq] at hblock
    rw [ih, List.drop_eq_getElem_cons hi, declarationsFrom, hheader]
    simp only [hblock, declarationsFrom_behind]
    rfl
  | case6 i hi =>
    rw [List.drop_of_length_le (by omega)]
    rfl

end SchemaAtlas

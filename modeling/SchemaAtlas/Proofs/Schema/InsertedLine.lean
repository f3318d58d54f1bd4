import SchemaAtlas.Proofs.Schema.Concatenation
import SchemaAtlas.Proofs.Schema.SourceItems

/-!
# A further line in a block

A line without effect on the braces can be put in front of the line that closes a block: the block
gets longer by that line (`Block.read?_insert`), blocks in front of it stay as they are, and blocks
behind it move down by one line (`placedFrom_insert`).  For a schema the line is one more line of
the model that the block declares, and nothing else changes (`Schema.ofLines_insert`).
-/

namespace SchemaAtlas

open Text

/-- The block with one more line at the end of its body. -/
def Block.extended (line : Line) (block : Block) : Block :=
  ⟨block.body ++ [line], block.extent + 1⟩

/-- The placed block with one more line at the end of its body. -/
def PlacedBlock.extended (line : Line) (p : PlacedBlock) : PlacedBlock :=
  { p with block := p.block.extended line }

/-! ### One block -/

namespace Block

variable {header line : Line} {rest above below : List Line} {depth : Int} {block : Block}

theorem bodyLength?_insert (hline : balance line = 0) (hdepth : 0 < depth)
    (h : bodyLength? depth (above ++ below) = some above.length) :
    bodyLength? depth (above ++ line :: below) = some (above.length + 1) := by
  induction above generalizing depth with
  | nil =>
    have hopen : ¬ depth ≤ 0 := by omega
    simp only [List.nil_append, List.length_nil] at h ⊢
    rw [bodyLength?, hline, Int.add_zero, if_neg hopen, h, Option.map_some]
  | cons first above ih =>
    simp only [List.cons_append, List.length_cons, bodyLength?] at h ⊢
    by_cases hclosed : depth + balance first ≤ 0
    · rw [if_pos hclosed] at h
      simp at h
    · rw [if_neg hclosed] at h ⊢
      obtain ⟨n, hn, hlength⟩ := Option.map_eq_some_iff.1 h
      obtain rfl : n = above.length := by omega
      rw [ih (by omega) hn, Option.map_some]

theorem bodyLength?_take {n : Nat} (h : bodyLength? depth rest = some n) :
    bodyLength? depth (rest.take (n + 1)) = some n := by
  induction rest generalizing depth n with
  | nil => cases h
  | cons first rest ih =>
    simp only [List.take_succ_cons, bodyLength?] at h ⊢
    by_cases hclosed : depth + balance first ≤ 0
    · rw [if_pos hclosed] at h ⊢
      exact h
    · rw [if_neg hclosed] at h ⊢
      obtain ⟨k, hk, rfl⟩ := Option.map_eq_some_iff.1 h
      rw [ih hk, Option.map_some]

/-- Lines behind the closing line do not matter. -/
theorem read?_take (h : read? header rest = some block) :
    read? header (rest.take block.extent) = some block := by
  unfold read? at h ⊢
  by_cases hclosed : headerDepth header ≤ 0
  · rw [if_pos hclosed] at h ⊢
    exact h
  · rw [if_neg hclosed] at h ⊢
    obtain ⟨n, hn, rfl⟩ := Option.map_eq_some_iff.1 h
    have htake : (rest.take (n + 1)).take n = rest.take n := by
      rw [List.take_take, Nat.min_eq_left (Nat.le_succ n)]
    rw [bodyLength?_take hn, Option.map_some, htake]

theorem read?_append_congr (h : read? header (above ++ below) = some block)
    (hle : block.extent ≤ above.length) (below' : List Line) :
    read? header (above ++ below') = some block := by
  have htake := read?_take h
  rw [List.take_append_of_le_length hle] at htake
  have hmore := read?_append htake (above.drop block.extent ++ below')
  rwa [← List.append_assoc, List.take_append_drop] at hmore

/-- One more line in front of the closing line belongs to the body. -/
theorem read?_insert (hline : balance line = 0) (h : read? header (above ++ below) = some block)
    (hextent : block.extent = above.length + 1) :
    read? header (above ++ line :: below) = some (block.extended line) := by
  unfold read? at h ⊢
  by_cases hclosed : headerDepth header ≤ 0
  · rw [if_pos hclosed] at h
    obtain rfl := Option.some.inj h
    cases hextent
  · rw [if_neg hclosed] at h ⊢
    obtain ⟨n, hn, rfl⟩ := Option.map_eq_some_iff.1 h
    obtain rfl : n = above.length := Nat.succ.inj hextent
    rw [bodyLength?_insert hline (by omega) hn, Option.map_some, extended, List.take_left,
      List.take_length_add_append]
    rfl

end Block

/-! ### All blocks -/

/-- Behind a block that gets one more line, all blocks move down by one line. -/
theorem placedFrom_behind_insert (number : Nat) (above below : List Line) (line : Line) :
    placedFrom number (above.length + 1 + 1) (above ++ line :: below) =
      (placedFrom number (above.length + 1) (above ++ below)).map (.moved 1) := by
  have hdrop : (above ++ line :: below).drop (above.length + 1 + 1) = below.drop 1 := by
    rw [Nat.add_assoc, List.drop_length_add_append, List.drop_succ_cons]
  rw [placedFrom_eq_drop, placedFrom_eq_drop number (above.length + 1), hdrop,
    List.drop_length_add_append, ← placedFrom_add]
  congr 1
  omega

/-- A line is put in front of the one that closes the block `p`. -/
theorem placedFrom_insert {line : Line} (hline : Block.balance line = 0) {number inside : Nat}
    {above below : List Line} {front back : List PlacedBlock} {p : PlacedBlock}
    (h : placedFrom number inside (above ++ below) = front ++ p :: back)
    (hopen : p.number < p.lastNumber) (hlast : number + above.length = p.lastNumber) :
    placedFrom number inside (above ++ line :: below) =
      front ++ p.extended line :: back.map (.moved 1) := by
  have hmem : ∀ (q : PlacedBlock) (front back : List PlacedBlock), q ∈ front ++ q :: back :=
    fun _ _ _ => List.mem_append_right _ List.mem_cons_self
  induction above generalizing number inside front with
  | nil =>
    have hle := le_number_of_mem_placedFrom (h ▸ hmem p front back)
    rw [List.length_nil] at hlast
    omega
  | cons first above ih =>
    rw [List.length_cons] at hlast
    cases inside with
    | succ inside => exact ih h (by omega)
    | zero =>
      cases hheader : Header.read? first with
      | none =>
        simp only [List.cons_append, placedFrom, hheader] at h ⊢
        exact ih h (by omega)
      | some header =>
        cases hblock : Block.read? first (above ++ below) with
        | none => simp [placedFrom, hheader, hblock] at h
        | some block =>
          simp only [List.cons_append, placedFrom, hheader, hblock] at h ⊢
          cases front with
          | nil =>
            obtain ⟨rfl, rfl⟩ := List.cons.inj h
            have hextent : block.extent = above.length + 1 := by
              simp only [PlacedBlock.lastNumber] at hlast
              omega
            have hbehind := placedFrom_behind_insert (number + 1) above below line
            rw [← hextent] at hbehind
            simp only [Block.read?_insert hline hblock hextent, Block.extended, hbehind]
            rfl
          | cons q front =>
            obtain ⟨rfl, hrest⟩ : _ = q ∧ placedFrom _ _ (above ++ below) = front ++ p :: back :=
              List.cons.inj h
            have hle := le_number_of_mem_placedFrom (hrest ▸ hmem p front back)
            have hread := Block.read?_append_congr hblock (by omega) (line :: below)
            simp only [hread, ih hrest (by omega), List.cons_append]

/-! ### The schema -/

namespace Schema

variable {lines above below : List Line} {front back : List Model} {m : Model}

theorem exists_placed_of_models_eq (h : (ofLines lines).models = front ++ m :: back) :
    let model? := fun p : PlacedBlock => (p.declaration (declaredEnumerations lines)).model?
    ∃ before p after, placedFrom 1 0 lines = before ++ p :: after ∧
      before.filterMap model? = front ∧ model? p = some m ∧ after.filterMap model? = back := by
  intro model?
  rw [models_ofLines, List.filterMap_eq_append_iff] at h
  obtain ⟨first, rest, hplaced, hfirst, hrest⟩ := h
  obtain ⟨between, p, after, rfl, hbetween, hp, hafter⟩ := List.filterMap_eq_cons_iff.1 hrest
  refine ⟨first ++ between, p, after, ?_, ?_, hp, hafter⟩
  · rw [hplaced, List.append_assoc]
  · rw [List.filterMap_append, hfirst, List.filterMap_eq_nil_iff.2 hbetween, List.append_nil]

theorem declaredEnumerations_insert {line : Line} (h : Header.read? line = none) :
    declaredEnumerations (above ++ line :: below) = declaredEnumerations (above ++ below) := by
  have hnone : enumerationHeader? line = none := by
    rw [enumerationHeader?, h]
  simp only [declaredEnumerations, List.filterMap_append, List.filterMap_cons, hnone]

/-- A line that is no header and leaves the depth as it is, put in front of the last line of a
model, is one more line of that model. -/
theorem ofLines_insert {line : Line} (hline : Block.balance line = 0)
    (hheader : Header.read? line = none)
    (hmodels : (ofLines (above ++ below)).models = front ++ m :: back)
    (hopen : m.line < m.endLine) (hlength : above.length + 1 = m.endLine) :
    (ofLines (above ++ line :: below)).enumerations = (ofLines (above ++ below)).enumerations ∧
      ∃ enums name block, Model.ofBlock enums m.line name block = m ∧
        (ofLines (above ++ line :: below)).models = front ++
          Model.ofBlock enums m.line name (block.extended line) :: back.map (.moved 1) := by
  obtain ⟨before, p, after, hplaced, hfront, hp, hback⟩ := exists_placed_of_models_eq hmodels
  obtain ⟨hkind, rfl⟩ := PlacedBlock.model?_declaration_eq_some_iff.1 hp
  have hlast : 1 + above.length = p.lastNumber := (Nat.add_comm _ _).trans hlength
  have hinsert := placedFrom_insert hline hplaced hopen hlast
  rw [enumerations_ofLines, enumerations_ofLines, models_ofLines, hinsert, hplaced,
    declaredEnumerations_insert hheader]
  generalize declaredEnumerations (above ++ below) = enums at *
  constructor
  · have hnone : ∀ q : PlacedBlock, q.header.kind = .model →
        (q.declaration enums).enumeration? = none := by
      intro q hq
      rw [PlacedBlock.declaration, Declaration.ofBlock, hq]
      rfl
    have hbehind := filterMap_enumeration?_moved enums enums 1 after
    simp only [List.filterMap_append, List.filterMap_cons, hnone p hkind,
      hnone (p.extended line) hkind, hbehind]
  · refine ⟨enums, p.header.name, p.block, rfl, ?_⟩
    have hextended : ((p.extended line).declaration enums).model? =
        some (Model.ofBlock enums p.number p.header.name (p.block.extended line)) :=
      PlacedBlock.model?_declaration_eq_some_iff.2 ⟨hkind, rfl⟩
    have hbehind := filterMap_model?_moved enums 1 after
    rw [List.filterMap_append, hfront]
    simp only [List.filterMap_cons, hextended, hbehind, hback]
    rfl

end Schema

end SchemaAtlas

import SchemaAtlas.Schema.Source

/-!
# Where blocks stand

`placedFrom` lists the blocks that the reading of a schema finds, each with its header and the number
of its header's line, and `unclosedFrom` gives the number of the header at which the reading stops
because its block is never closed.  Every declaration comes from one placed block
(`declarationsFrom_eq_map`).

Whatever the lines are, a placed block stands in them (`standsIn_of_mem_placedFrom`), blocks follow
each other without overlap (`pairwise_placedFrom`) and in front of the header at which reading stops
(`lastNumber_lt_of_unclosedFrom`); and a line that has the form of a header opens a placed block unless
it is enclosed by one or reading has stopped in front of it (`header_cases`).
-/

namespace SchemaAtlas

/-- A block with its header and the number of the header's line. -/
structure PlacedBlock where
  number : Nat
  header : Header
  block : Block

namespace PlacedBlock

/-- The number of the closing line. -/
def lastNumber (p : PlacedBlock) : Nat :=
  p.number + p.block.extent

/-- The line with number `i` belongs to the block and comes behind its header. -/
def Encloses (p : PlacedBlock) (i : Nat) : Prop :=
  p.number < i ∧ i ≤ p.lastNumber

/-- The block is what its header opens in the lines, the first of which has number `first`. -/
def StandsIn (first : Nat) (lines : List Line) (p : PlacedBlock) : Prop :=
  ∃ front line back, lines = front ++ line :: back ∧ p.number = first + front.length ∧
    Header.read? line = some p.header ∧ Block.read? line back = some p.block

/-- What the block declares. -/
def declaration (enums : List String) (p : PlacedBlock) : Declaration :=
  .ofBlock enums p.number p.header p.block

end PlacedBlock

/-- The blocks on the lines from line `number` on, of which the first `inside` belong to a block that
has been read. -/
def placedFrom (number inside : Nat) : List Line → List PlacedBlock
  | [] => []
  | line :: rest =>
    match inside with
    | inside + 1 => placedFrom (number + 1) inside rest
    | 0 =>
      match Header.read? line with
      | none => placedFrom (number + 1) 0 rest
      | some header =>
        match Block.read? line rest with
        | none => []
        | some block => ⟨number, header, block⟩ :: placedFrom (number + 1) block.extent rest

/-- The number of the header whose block is never closed, on lines as in `placedFrom`. -/
def unclosedFrom (number inside : Nat) : List Line → Option Nat
  | [] => none
  | line :: rest =>
    match inside with
    | inside + 1 => unclosedFrom (number + 1) inside rest
    | 0 =>
      match Header.read? line with
      | none => unclosedFrom (number + 1) 0 rest
      | some _ =>
        match Block.read? line rest with
        | none => some number
        | some block => unclosedFrom (number + 1) block.extent rest

/-- The lines of a block that has been read are passed over. -/
theorem placedFrom_eq_drop (number inside : Nat) (ls : List Line) :
    placedFrom number inside ls = placedFrom (number + inside) 0 (ls.drop inside) := by
  induction ls generalizing number inside with
  | nil => simp [placedFrom]
  | cons line ls ih =>
    cases inside with
    | zero => rfl
    | succ inside =>
      rw [placedFrom, ih, List.drop_succ_cons, Nat.add_right_comm, Nat.add_assoc]

theorem declarationsFrom_eq_map (enums : List String) (number inside : Nat) (lines : List Line) :
    declarationsFrom enums number inside lines =
      (placedFrom number inside lines).map (PlacedBlock.declaration enums) := by
  fun_induction placedFrom number inside lines <;>
    simp_all [declarationsFrom, PlacedBlock.declaration]

/-! ### Models and enumerations as placed blocks -/

namespace PlacedBlock

theorem model?_declaration_eq_some_iff {enums : List String} {p : PlacedBlock} {m : Model} :
    (p.declaration enums).model? = some m ↔
      p.header.kind = .model ∧ Model.ofBlock enums p.number p.header.name p.block = m := by
  cases hkind : p.header.kind <;>
    simp [declaration, Declaration.ofBlock, Declaration.model?, hkind]

theorem enumeration?_declaration_eq_some_iff {enums : List String} {p : PlacedBlock}
    {e : Enumeration} :
    (p.declaration enums).enumeration? = some e ↔
      p.header.kind = .enumeration ∧ Enumeration.ofBlock p.header.name p.block = e := by
  cases hkind : p.header.kind <;>
    simp [declaration, Declaration.ofBlock, Declaration.enumeration?, hkind]

end PlacedBlock

namespace Schema

theorem models_ofLines (lines : List Line) :
    (ofLines lines).models = (placedFrom 1 0 lines).filterMap fun p =>
      (p.declaration (declaredEnumerations lines)).model? := by
  simp only [ofLines, declarationsFrom_eq_map, List.filterMap_map]
  rfl

theorem enumerations_ofLines (lines : List Line) :
    (ofLines lines).enumerations = (placedFrom 1 0 lines).filterMap fun p =>
      (p.declaration (declaredEnumerations lines)).enumeration? := by
  simp only [ofLines, declarationsFrom_eq_map, List.filterMap_map]
  rfl

theorem mem_models_ofLines_iff {lines : List Line} {m : Model} :
    m ∈ (ofLines lines).models ↔ ∃ p ∈ placedFrom 1 0 lines, p.header.kind = .model ∧
      Model.ofBlock (declaredEnumerations lines) p.number p.header.name p.block = m := by
  simp only [models_ofLines, List.mem_filterMap, PlacedBlock.model?_declaration_eq_some_iff]

theorem mem_enumerationNames_ofLines_iff {lines : List Line} {name : String} :
    name ∈ (ofLines lines).enumerationNames ↔
      ∃ p ∈ placedFrom 1 0 lines, p.header = ⟨.enumeration, name⟩ := by
  simp only [enumerationNames, enumerations_ofLines, List.mem_map, List.mem_filterMap,
    PlacedBlock.enumeration?_declaration_eq_some_iff]
  constructor
  · rintro ⟨e, ⟨⟨number, ⟨kind, name'⟩, block⟩, hp, hkind, rfl⟩, rfl⟩
    exact ⟨_, hp, by rw [← hkind]; rfl⟩
  · rintro ⟨p, hp, hheader⟩
    exact ⟨_, ⟨p, hp, by rw [hheader], rfl⟩, by rw [hheader]; rfl⟩

end Schema

/-! ### Blocks and their lines -/

namespace Block

variable {header : Line} {rest : List Line} {block : Block}

theorem body_prefix_of_read? (h : read? header rest = some block) : block.body <+: rest := by
  unfold read? at h
  split at h
  · obtain rfl := Option.some.inj h
    exact List.nil_prefix
  · obtain ⟨n, -, rfl⟩ := Option.map_eq_some_iff.1 h
    exact List.take_prefix n rest

theorem length_body_of_read? (h : read? header rest = some block) :
    block.body.length = block.extent - 1 := by
  unfold read? at h
  split at h
  · obtain rfl := Option.some.inj h
    rfl
  · obtain ⟨n, hn, rfl⟩ := Option.map_eq_some_iff.1 h
    have hlt := bodyLength?_lt hn
    simp only [List.length_take]
    omega

end Block

namespace PlacedBlock.StandsIn

variable {first : Nat} {line : Line} {lines : List Line} {p : PlacedBlock}

theorem cons (h : p.StandsIn (first + 1) lines) : p.StandsIn first (line :: lines) := by
  obtain ⟨front, header, back, rfl, hnumber, hheader, hblock⟩ := h
  refine ⟨line :: front, header, back, rfl, ?_, hheader, hblock⟩
  rw [hnumber, List.length_cons]
  omega

theorem le_number (h : p.StandsIn first lines) : first ≤ p.number := by
  obtain ⟨front, _, _, _, hnumber, -⟩ := h
  omega

theorem lastNumber_lt (h : p.StandsIn first lines) : p.lastNumber < first + lines.length := by
  obtain ⟨front, line, back, rfl, hnumber, -, hblock⟩ := h
  have hextent := Block.extent_le hblock
  rw [PlacedBlock.lastNumber, hnumber, List.length_append, List.length_cons]
  omega

/-- The header of the block is the line of its number. -/
theorem getElem?_number (h : p.StandsIn first lines) :
    ∃ line, lines[p.number - first]? = some line ∧ Header.read? line = some p.header := by
  obtain ⟨front, line, back, rfl, hnumber, hheader, -⟩ := h
  refine ⟨line, ?_, hheader⟩
  rw [hnumber, Nat.add_sub_cancel_left, List.getElem?_append_right (Nat.le_refl _), Nat.sub_self]
  rfl

/-- The body of the block is on the lines behind its header. -/
theorem getElem?_body (h : p.StandsIn first lines) {j : Nat} (hj : j < p.block.body.length) :
    lines[p.number - first + 1 + j]? = p.block.body[j]? := by
  obtain ⟨front, line, back, rfl, hnumber, -, hblock⟩ := h
  obtain ⟨behind, rfl⟩ := Block.body_prefix_of_read? hblock
  rw [hnumber, Nat.add_sub_cancel_left, List.getElem?_append_right (by omega),
    show front.length + 1 + j - front.length = j + 1 by omega, List.getElem?_cons_succ,
    List.getElem?_append_left hj]

/-- The closing line stands behind the body. -/
theorem lt_lastNumber (h : p.StandsIn first lines) {j : Nat} (hj : j < p.block.body.length) :
    p.number + 1 + j < p.lastNumber := by
  obtain ⟨_, _, _, -, -, -, hblock⟩ := h
  have hlength := Block.length_body_of_read? hblock
  rw [PlacedBlock.lastNumber]
  omega

end PlacedBlock.StandsIn

/-! ### The blocks that reading finds -/

theorem standsIn_of_mem_placedFrom {number inside : Nat} {lines : List Line} {p : PlacedBlock}
    (h : p ∈ placedFrom number inside lines) : p.StandsIn number lines := by
  fun_induction placedFrom number inside lines with
  | case1 => simp at h
  | case2 number line rest inside ih => exact (ih h).cons
  | case3 number line rest hheader ih => exact (ih h).cons
  | case4 => simp at h
  | case5 number line rest header hheader block hblock ih =>
    obtain rfl | h := List.mem_cons.1 h
    · exact ⟨[], line, rest, rfl, rfl, hheader, hblock⟩
    · exact (ih h).cons

theorem le_number_of_mem_placedFrom {number inside : Nat} {lines : List Line} {p : PlacedBlock}
    (h : p ∈ placedFrom number inside lines) : number + inside ≤ p.number := by
  fun_induction placedFrom number inside lines with
  | case1 => simp at h
  | case2 number line rest inside ih =>
    have := ih h
    omega
  | case3 number line rest hheader ih =>
    have := ih h
    omega
  | case4 => simp at h
  | case5 number line rest header hheader block hblock ih =>
    obtain rfl | h := List.mem_cons.1 h
    · exact Nat.le_refl _
    · have := ih h
      omega

/-- Every block ends in front of the header of the next one. -/
theorem pairwise_placedFrom (number inside : Nat) (lines : List Line) :
    (placedFrom number inside lines).Pairwise fun p q => p.lastNumber < q.number := by
  fun_induction placedFrom number inside lines with
  | case1 => exact .nil
  | case2 number line rest inside ih => exact ih
  | case3 number line rest hheader ih => exact ih
  | case4 => exact .nil
  | case5 number line rest header hheader block hblock ih =>
    refine .cons (fun q hq => ?_) ih
    have := le_number_of_mem_placedFrom hq
    simp only [PlacedBlock.lastNumber]
    omega

/-- No block has the header of another one inside. -/
theorem not_encloses_number {number inside : Nat} {lines : List Line} {p q : PlacedBlock}
    (hp : p ∈ placedFrom number inside lines) (hq : q ∈ placedFrom number inside lines) :
    ¬ q.Encloses p.number := by
  have hpair := pairwise_placedFrom number inside lines
  have hself : ∀ r ∈ placedFrom number inside lines, ¬ r.Encloses r.number :=
    fun r _ h => Nat.lt_irrefl _ h.1
  have hbehind : ∀ {r s : PlacedBlock}, r.lastNumber < s.number → ¬ s.Encloses r.number := by
    intro r s hlt h
    have hle : r.number ≤ r.lastNumber := Nat.le_add_right _ _
    have hgt := h.1
    omega
  have hfront : ∀ {r s : PlacedBlock}, r.lastNumber < s.number → ¬ r.Encloses s.number :=
    fun hlt h => Nat.lt_irrefl _ (Nat.lt_of_lt_of_le hlt h.2)
  exact List.Pairwise.forall_of_forall_of_flip (R := fun r s => ¬ s.Encloses r.number) hself
    (hpair.imp hbehind) (hpair.imp hfront) hp hq

theorem lastNumber_lt_of_unclosedFrom {number inside k : Nat} {lines : List Line}
    (hk : unclosedFrom number inside lines = some k) :
    number + inside ≤ k ∧ ∀ p ∈ placedFrom number inside lines, p.lastNumber < k := by
  fun_induction placedFrom number inside lines with
  | case1 => simp [unclosedFrom] at hk
  | case2 number line rest inside ih =>
    obtain ⟨hle, hlast⟩ := ih hk
    exact ⟨by omega, hlast⟩
  | case3 number line rest hheader ih =>
    simp only [unclosedFrom, hheader] at hk
    obtain ⟨hle, hlast⟩ := ih hk
    exact ⟨by omega, hlast⟩
  | case4 number line rest header hheader hblock =>
    simp only [unclosedFrom, hheader, hblock, Option.some.injEq] at hk
    exact ⟨by omega, by simp⟩
  | case5 number line rest header hheader block hblock ih =>
    simp only [unclosedFrom, hheader, hblock] at hk
    obtain ⟨hle, hlast⟩ := ih hk
    refine ⟨by omega, List.forall_mem_cons.2 ⟨?_, hlast⟩⟩
    simp only [PlacedBlock.lastNumber]
    omega

/-- Of lines that are counted from `number` on, line `i` is the first one, or it is found among the
remaining ones. -/
theorem numbered_cons {number i : Nat} {first line : Line} {rest : List Line} (hi : number ≤ i)
    (h : (first :: rest)[i - number]? = some line) :
    (number = i ∧ first = line) ∨ (number + 1 ≤ i ∧ rest[i - (number + 1)]? = some line) := by
  by_cases heq : number = i
  · exact .inl ⟨heq, by simpa [heq] using h⟩
  · refine .inr ⟨by omega, ?_⟩
    rwa [show i - number = i - (number + 1) + 1 by omega, List.getElem?_cons_succ] at h

/-- A line that has the form of a header opens a placed block, unless it belongs to a block that has
been read, or reading has stopped at it or in front of it. -/
theorem header_cases (inside : Nat) {number i : Nat} {lines : List Line} {line : Line} {header : Header}
    (hi : number ≤ i) (hline : lines[i - number]? = some line)
    (hheader : Header.read? line = some header) :
    i < number + inside ∨
      (∃ p ∈ placedFrom number inside lines, p.number = i ∧ p.header = header) ∨
      (∃ p ∈ placedFrom number inside lines, p.Encloses i) ∨
      ∃ k, unclosedFrom number inside lines = some k ∧ k ≤ i := by
  fun_induction placedFrom number inside lines with
  | case1 => simp at hline
  | case2 number first rest inside ih =>
    obtain ⟨rfl, -⟩ | ⟨hlt, hline⟩ := numbered_cons hi hline
    · exact .inl (by omega)
    · obtain h | h := ih hlt hline
      · exact .inl (by omega)
      · exact .inr h
  | case3 number first rest hnone ih =>
    obtain ⟨-, rfl⟩ | ⟨hlt, hline⟩ := numbered_cons hi hline
    · rw [hheader] at hnone
      cases hnone
    · obtain h | h := ih hlt hline
      · omega
      · simpa only [unclosedFrom, hnone] using Or.inr h
  | case4 number first rest header' hheader' hblock =>
    refine .inr (.inr (.inr ⟨number, ?_, hi⟩))
    simp only [unclosedFrom, hheader', hblock]
  | case5 number first rest header' hheader' block hblock ih =>
    obtain ⟨rfl, rfl⟩ | ⟨hlt, hline⟩ := numbered_cons hi hline
    · rw [hheader] at hheader'
      cases hheader'
      exact .inr (.inl ⟨_, List.mem_cons_self, rfl, rfl⟩)
    · obtain h | ⟨p, hp, h⟩ | ⟨p, hp, h⟩ | h := ih hlt hline
      · refine .inr (.inr (.inl ⟨_, List.mem_cons_self, hlt, ?_⟩))
        simp only [PlacedBlock.lastNumber]
        omega
      · exact .inr (.inl ⟨p, List.mem_cons_of_mem _ hp, h⟩)
      · exact .inr (.inr (.inl ⟨p, List.mem_cons_of_mem _ hp, h⟩))
      · simpa only [unclosedFrom, hheader', hblock] using Or.inr (Or.inr (Or.inr h))

end SchemaAtlas

import SchemaAtlas.Proofs.Schema.EnumerationNames

/-!
# Schemas one after another

Lines that are read behind other lines keep their meaning.  What has been read stays as it is,
whatever follows (`placedFrom_append`); what follows gets higher line numbers (`placedFrom_add`); and
a field becomes an enumeration field if its type is declared in either part (`fieldsFrom_resolved`).

Main statement: `Schema.ofLines_append`.  The schema of `front ++ back` begins with the schema of
`front`, and if reading `front` does not stop at a block that is never closed, the schema of `back`
follows with its line numbers moved by the length of `front`.
-/

namespace SchemaAtlas

/-- The field where the given enumerations are declared as well. -/
def Field.resolved (enums : List String) (f : Field) : Field :=
  if f.baseType ∉ builtinTypes ∧ f.baseType ∈ enums then { f with kind := .enumeration } else f

/-- The field `n` lines further down. -/
def Field.moved (n : Nat) (f : Field) : Field :=
  { f with line := n + f.line }

/-- The model where the given enumerations are declared as well. -/
def Model.resolved (enums : List String) (m : Model) : Model :=
  { m with fields := m.fields.map (Field.resolved enums) }

/-- The model `n` lines further down. -/
def Model.moved (n : Nat) (m : Model) : Model :=
  { m with fields := m.fields.map (Field.moved n), line := n + m.line, endLine := n + m.endLine }

/-- The block `n` lines further down. -/
def PlacedBlock.moved (n : Nat) (p : PlacedBlock) : PlacedBlock :=
  { p with number := n + p.number }

/-! ### Blocks with more lines behind them -/

namespace Block

theorem bodyLength?_append {depth : Int} {lines : List Line} {n : Nat}
    (h : bodyLength? depth lines = some n) (more : List Line) :
    bodyLength? depth (lines ++ more) = some n := by
  induction lines generalizing depth n with
  | nil => cases h
  | cons line lines ih =>
    simp only [List.cons_append, bodyLength?] at h ⊢
    split at h
    · rw [if_pos ‹_›, h]
    · obtain ⟨k, hk, rfl⟩ := Option.map_eq_some_iff.1 h
      rw [if_neg ‹_›, ih hk, Option.map_some]

theorem read?_append {header : Line} {rest : List Line} {block : Block}
    (h : read? header rest = some block) (more : List Line) :
    read? header (rest ++ more) = some block := by
  unfold read? at h ⊢
  split at h
  · rw [if_pos ‹_›, h]
  · obtain ⟨n, hn, rfl⟩ := Option.map_eq_some_iff.1 h
    have hle := Nat.le_of_lt (bodyLength?_lt hn)
    rw [if_neg ‹_›, bodyLength?_append hn, Option.map_some, List.take_append_of_le_length hle]

end Block

/-- More lines leave the blocks that have been read as they are, and reading goes on behind the
lines if it has not stopped in them. -/
theorem placedFrom_append (number inside : Nat) (front back : List Line)
    (hinside : inside ≤ front.length) :
    ∃ more, placedFrom number inside (front ++ back) = placedFrom number inside front ++ more ∧
      (unclosedFrom number inside front = none →
        more = placedFrom (number + front.length) 0 back) := by
  have hlength : ∀ (k : Nat) (line : Line) (rest : List Line),
      k + (line :: rest).length = k + 1 + rest.length := by
    intro k line rest
    rw [List.length_cons]
    omega
  fun_induction placedFrom number inside front with
  | case1 number inside =>
    obtain rfl := Nat.le_zero.1 hinside
    exact ⟨_, rfl, fun _ => rfl⟩
  | case2 number line rest inside ih =>
    rw [hlength]
    exact ih (Nat.le_of_succ_le_succ hinside)
  | case3 number line rest hheader ih =>
    simp only [hlength, List.cons_append, placedFrom, unclosedFrom, hheader]
    exact ih (Nat.zero_le _)
  | case4 number line rest header hheader hblock =>
    refine ⟨_, rfl, fun hclosed => ?_⟩
    simp only [unclosedFrom, hheader, hblock, reduceCtorEq] at hclosed
  | case5 number line rest header hheader block hblock ih =>
    obtain ⟨more, hmore, hclosed⟩ := ih (Block.extent_le hblock)
    refine ⟨more, ?_, ?_⟩
    · simp only [List.cons_append, placedFrom, hheader, Block.read?_append hblock, hmore]
    · simpa only [hlength, unclosedFrom, hheader, hblock] using hclosed

/-! ### Lines further down -/

theorem placedFrom_add (n number inside : Nat) (lines : List Line) :
    placedFrom (n + number) inside lines = (placedFrom number inside lines).map (.moved n) := by
  fun_induction placedFrom number inside lines with
  | case1 => rfl
  | case2 number line rest inside ih => exact ih
  | case3 number line rest hheader ih =>
    simp only [placedFrom, hheader]
    exact ih
  | case4 number line rest header hheader hblock =>
    simp only [placedFrom, hheader, hblock, List.map_nil]
  | case5 number line rest header hheader block hblock ih =>
    simp only [placedFrom, hheader, hblock, List.map_cons, Nat.add_assoc, ih]
    rfl

theorem Field.read?_add (enums : List String) (pending : Option String) (n number : Nat)
    (line : Line) :
    Field.read? enums pending (n + number) line =
      (Field.read? enums pending number line).map (.moved n) := by
  simp only [Field.read?, Option.map_map]
  rfl

theorem fieldsFrom_add (enums : List String) (pending : Option String) (n number : Nat)
    (body : List Line) :
    fieldsFrom enums pending (n + number) body =
      (fieldsFrom enums pending number body).map (.moved n) := by
  fun_induction fieldsFrom enums pending number body with
  | case1 => rfl
  | case2 pending number line rest hline ih
  | case3 pending number line rest text hline ih
  | case4 pending number line rest code hline ih =>
    simp only [fieldsFrom, hline]
    exact ih
  | case5 pending number line rest text hline f hf ih =>
    simp only [fieldsFrom, hline, Field.read?_add, hf, Option.map_some, List.map_cons]
    exact congrArg (f.moved n :: ·) ih
  | case6 pending number line rest text hline hf ih =>
    simp only [fieldsFrom, hline, Field.read?_add, hf, Option.map_none]
    exact ih

theorem Model.ofBlock_add (enums : List String) (n number : Nat) (name : String) (block : Block) :
    Model.ofBlock enums (n + number) name block =
      (Model.ofBlock enums number name block).moved n := by
  simp only [Model.ofBlock, Model.moved, Nat.add_assoc, fieldsFrom_add]

/-! ### More enumerations -/

theorem FieldKind.ofType_resolved {enums all : List String} (h : enums ⊆ all) (baseType : String) :
    FieldKind.ofType all baseType =
      if baseType ∉ builtinTypes ∧ baseType ∈ all then .enumeration
      else FieldKind.ofType enums baseType := by
  split_ifs with hall
  · exact ofType_eq_enumeration_iff.2 hall
  · by_cases hb : baseType ∈ builtinTypes
    · rw [ofType_eq_scalar_iff.2 hb, ofType_eq_scalar_iff.2 hb]
    · have hnot : baseType ∉ all := fun hmem => hall ⟨hb, hmem⟩
      rw [ofType_eq_relation_iff.2 ⟨hb, hnot⟩,
        ofType_eq_relation_iff.2 ⟨hb, fun hmem => hnot (h hmem)⟩]

theorem Field.read?_resolved {enums all : List String} (h : enums ⊆ all) (pending : Option String)
    (number : Nat) (line : Line) :
    Field.read? all pending number line =
      (Field.read? enums pending number line).map (.resolved all) := by
  simp only [Field.read?, Option.map_map]
  congr 1
  funext signature
  simp only [Function.comp_apply, Field.resolved, FieldKind.ofType_resolved h]
  split_ifs <;> rfl

theorem fieldsFrom_resolved {enums all : List String} (h : enums ⊆ all) (pending : Option String)
    (number : Nat) (body : List Line) :
    fieldsFrom all pending number body =
      (fieldsFrom enums pending number body).map (.resolved all) := by
  fun_induction fieldsFrom enums pending number body with
  | case1 => rfl
  | case2 pending number line rest hline ih
  | case3 pending number line rest text hline ih
  | case4 pending number line rest code hline ih =>
    simp only [fieldsFrom, hline]
    exact ih
  | case5 pending number line rest text hline f hf ih =>
    simp only [fieldsFrom, hline, Field.read?_resolved h, hf, Option.map_some, List.map_cons, ih]
  | case6 pending number line rest text hline hf ih =>
    simp only [fieldsFrom, hline, Field.read?_resolved h, hf, Option.map_none]
    exact ih

theorem Model.ofBlock_resolved {enums all : List String} (h : enums ⊆ all) (number : Nat)
    (name : String) (block : Block) :
    Model.ofBlock all number name block = (Model.ofBlock enums number name block).resolved all := by
  simp only [Model.ofBlock, Model.resolved, fieldsFrom_resolved h]

/-- Of the enumerations that are added only their names matter. -/
theorem Model.resolved_congr {enums all : List String} (h : ∀ name, name ∈ enums ↔ name ∈ all) :
    Model.resolved enums = Model.resolved all := by
  have hfield : Field.resolved enums = Field.resolved all := by
    funext f
    simp only [Field.resolved, h]
  funext m
  rw [Model.resolved, Model.resolved, hfield]

/-! ### Two lists of lines -/

theorem mem_declaredEnumerations_append {front back : List Line} {name : String} :
    name ∈ declaredEnumerations (front ++ back) ↔
      name ∈ declaredEnumerations front ++ declaredEnumerations back := by
  simp only [declaredEnumerations, List.filterMap_append, List.mem_eraseDups, List.mem_append]

namespace PlacedBlock

theorem model?_declaration_resolved {enums all : List String} (h : enums ⊆ all) (p : PlacedBlock) :
    (p.declaration all).model? = ((p.declaration enums).model?).map (.resolved all) := by
  cases hkind : p.header.kind <;>
    simp [declaration, Declaration.ofBlock, Declaration.model?, hkind, Model.ofBlock_resolved h]

theorem model?_declaration_moved (enums : List String) (n : Nat) (p : PlacedBlock) :
    ((p.moved n).declaration enums).model? = ((p.declaration enums).model?).map (.moved n) := by
  cases hkind : p.header.kind <;>
    simp [declaration, moved, Declaration.ofBlock, Declaration.model?, hkind, Model.ofBlock_add]

theorem enumeration?_declaration_congr (enums all : List String) (p : PlacedBlock) :
    (p.declaration all).enumeration? = (p.declaration enums).enumeration? := by
  cases hkind : p.header.kind <;>
    simp [declaration, Declaration.ofBlock, Declaration.enumeration?, hkind]

theorem enumeration?_declaration_moved (enums : List String) (n : Nat) (p : PlacedBlock) :
    ((p.moved n).declaration enums).enumeration? = (p.declaration enums).enumeration? := by
  cases hkind : p.header.kind <;>
    simp [declaration, moved, Declaration.ofBlock, Declaration.enumeration?, hkind]

end PlacedBlock

theorem filterMap_model?_resolved {enums all : List String} (h : enums ⊆ all)
    (ps : List PlacedBlock) :
    ps.filterMap (fun p => (p.declaration all).model?) =
      (ps.filterMap fun p => (p.declaration enums).model?).map (.resolved all) := by
  simp only [List.map_filterMap, PlacedBlock.model?_declaration_resolved h]

theorem filterMap_model?_moved (enums : List String) (n : Nat) (ps : List PlacedBlock) :
    (ps.map (PlacedBlock.moved n)).filterMap (fun p => (p.declaration enums).model?) =
      (ps.filterMap fun p => (p.declaration enums).model?).map (Model.moved n) := by
  simp only [List.filterMap_map, List.map_filterMap, Function.comp_def,
    PlacedBlock.model?_declaration_moved]

/-- The enumerations depend neither on those that are declared elsewhere nor on line numbers. -/
theorem filterMap_enumeration?_moved (enums all : List String) (n : Nat) (ps : List PlacedBlock) :
    (ps.map (PlacedBlock.moved n)).filterMap (fun p => (p.declaration all).enumeration?) =
      ps.filterMap fun p => (p.declaration enums).enumeration? := by
  simp only [List.filterMap_map, Function.comp_def, PlacedBlock.enumeration?_declaration_moved,
    PlacedBlock.enumeration?_declaration_congr enums all]

namespace Schema

/-- What lines declare stays as it is when other lines follow, and if all their blocks are closed,
the following lines declare what they declare by themselves.  Only line numbers and the kinds of
fields take account of the other part. -/
theorem ofLines_append (front back : List Line) :
    let all := declaredEnumerations front ++ declaredEnumerations back
    let both := ofLines (front ++ back)
    (ofLines front).enumerations <+: both.enumerations ∧
      (ofLines front).models.map (.resolved all) <+: both.models ∧
      (unclosedFrom 1 0 front = none →
        both.enumerations = (ofLines front).enumerations ++ (ofLines back).enumerations ∧
          both.models = (ofLines front).models.map (.resolved all) ++
            (ofLines back).models.map fun m => (m.resolved all).moved front.length) := by
  intro all both
  obtain ⟨more, hmore, hclosed⟩ := placedFrom_append 1 0 front back (Nat.zero_le _)
  have hmem : ∀ name, name ∈ declaredEnumerations (front ++ back) ↔ name ∈ all :=
    fun name => mem_declaredEnumerations_append
  have hfront : declaredEnumerations front ⊆ declaredEnumerations (front ++ back) :=
    fun name h => (hmem name).2 (List.mem_append_left _ h)
  have hback : declaredEnumerations back ⊆ declaredEnumerations (front ++ back) :=
    fun name h => (hmem name).2 (List.mem_append_right _ h)
  have henumerations : both.enumerations = (ofLines front).enumerations ++
      more.filterMap fun p => (p.declaration (declaredEnumerations (front ++ back))).enumeration? := by
    simp only [both, enumerations_ofLines, hmore, List.filterMap_append,
      PlacedBlock.enumeration?_declaration_congr (declaredEnumerations front)]
  have hmodels : both.models = (ofLines front).models.map (.resolved all) ++
      more.filterMap fun p => (p.declaration (declaredEnumerations (front ++ back))).model? := by
    rw [models_ofLines, hmore, List.filterMap_append, filterMap_model?_resolved hfront,
      Model.resolved_congr hmem, models_ofLines]
  refine ⟨⟨_, henumerations.symm⟩, ⟨_, hmodels.symm⟩, fun hnone => ?_⟩
  have hplaced : more = (placedFrom 1 0 back).map (.moved front.length) := by
    rw [hclosed hnone, Nat.add_comm, placedFrom_add]
  constructor
  · rw [henumerations, hplaced, filterMap_enumeration?_moved (declaredEnumerations back),
      enumerations_ofLines back]
  · rw [hmodels, hplaced, filterMap_model?_moved, filterMap_model?_resolved hback,
      Model.resolved_congr hmem, models_ofLines back, List.map_map]
    rfl

/-- A model whose field uses an enumeration of the part behind it, which also holds a model and ends
in a block that is never closed. -/
theorem ofLines_append_role :
    let front := ["model A \x7b", "  role Role", "\x7d"].map String.toList
    let back := ["enum Role \x7b", "  ADMIN", "\x7d", "model B \x7b", "  id Int", "\x7d",
      "model C \x7b"].map String.toList
    let both := ofLines (front ++ back)
    unclosedFrom 1 0 front = none ∧
      both.enumerations = [⟨"Role", ["ADMIN"]⟩] ∧
      both.models = [
        { name := "A", fields := [⟨"role", "Role", .enumeration, false, false, false, false, none,
            none, none, none, 2⟩], line := 1, endLine := 3 },
        { name := "B", fields := [⟨"id", "Int", .scalar, false, false, false, false, none, none,
            none, none, 8⟩], line := 7, endLine := 9 }] := by
  intro front back both
  have hnone : unclosedFrom 1 0 front = none := by decide +kernel
  obtain ⟨henumerations, hmodels⟩ := (ofLines_append front back).2.2 hnone
  refine ⟨hnone, henumerations.trans ?_, hmodels.trans ?_⟩ <;> decide +kernel

end Schema

end SchemaAtlas

import SchemaAtlas.Host.FileTree

/-!
# Places in a file tree

The place that a path leads to is told by its names alone (`walk_eq_ok`), and it stays as long as a
tree only `Grows`.  To write a file or to make a directory lets a tree grow, and of what the files
hold it changes at most the one that is written (`held_write`, `held_makeDirectory`).
-/

namespace SchemaAtlas

namespace Path

/-- The names that the path leads to. -/
def place (path : Path) : List String :=
  withoutDots [] path.names

theorem notMem_withoutDots {above names : List String} (h : ".." ∉ above) :
    ".." ∉ withoutDots above names := by
  induction names generalizing above with
  | nil => simpa [withoutDots] using h
  | cons name rest ih =>
    rw [withoutDots]
    split
    · exact ih fun hmem => h (List.mem_of_mem_tail hmem)
    · next hname =>
      refine ih fun hmem => ?_
      obtain rfl | hmem := List.mem_cons.1 hmem
      · exact hname rfl
      · exact h hmem

theorem withoutDots_of_notMem {above names : List String} (h : ".." ∉ names) :
    withoutDots above names = above.reverse ++ names := by
  induction names generalizing above with
  | nil => simp [withoutDots]
  | cons name rest ih =>
    have hname : name ≠ ".." := (List.ne_of_not_mem_cons h).symm
    rw [withoutDots, if_neg (by simpa using hname), ih (List.not_mem_of_not_mem_cons h)]
    simp

/-- To remove double dots does not change where a path leads to. -/
theorem place_resolved (path base : Path) : (path.resolved base).place = (base.join path).place :=
  withoutDots_of_notMem (notMem_withoutDots List.not_mem_nil)

end Path

namespace FileTree

variable {tree next last : FileTree} {path : Path}

/-- What the file at a place holds; nothing if no file is there. -/
def held (tree : FileTree) (place : List String) : List UInt8 :=
  match tree.node? place with
  | some (.file content) => content
  | _ => []

/-- What stands at a place. -/
def kind? (tree : FileTree) (place : List String) : Option FileKind :=
  (tree.node? place).map kindOf

/-- Files and directories stay what they are. -/
def Grows (tree next : FileTree) : Prop :=
  ∀ place kind, tree.kind? place = some kind → next.kind? place = some kind

theorem Grows.refl (tree : FileTree) : tree.Grows tree :=
  fun _ _ h => h

theorem Grows.trans (h : tree.Grows next) (h' : next.Grows last) : tree.Grows last :=
  fun place kind hkind => h' place kind (h place kind hkind)

/-! ### Walks -/

theorem kind?_eq_directory_iff {place : List String} :
    tree.kind? place = some .directory ↔ tree.node? place = some .directory := by
  rw [kind?]
  rcases tree.node? place with _ | _ | content <;> simp [kindOf]

theorem walk_cons_eq_ok_iff {place result : List String} {name : String} {rest : List String} :
    tree.walk place (name :: rest) = .ok result ↔ tree.kind? place = some .directory ∧
      tree.walk (if name == ".." then place.dropLast else place ++ [name]) rest = .ok result := by
  rw [kind?_eq_directory_iff, walk]
  rcases tree.node? place with _ | _ | content <;> simp

theorem walk_eq_ok {place result names : List String} (h : tree.walk place names = .ok result) :
    result = Path.withoutDots place.reverse names := by
  induction names generalizing place with
  | nil =>
    cases h
    rw [Path.withoutDots, List.reverse_reverse]
  | cons name rest ih =>
    rw [ih (walk_cons_eq_ok_iff.1 h).2, Path.withoutDots]
    cases name == ".." <;> simp

theorem Grows.walk {place result names : List String} (hgrows : tree.Grows next)
    (h : tree.walk place names = .ok result) : next.walk place names = .ok result := by
  induction names generalizing place with
  | nil => exact h
  | cons name rest ih =>
    obtain ⟨hkind, hrest⟩ := walk_cons_eq_ok_iff.1 h
    exact walk_cons_eq_ok_iff.2 ⟨hgrows place .directory hkind, ih hrest⟩

/-- A walk to a directory can go on by one name. -/
theorem exists_walk_concat {place result names : List String} {name : String}
    (h : tree.walk place names = .ok result) (hkind : tree.kind? result = some .directory) :
    ∃ result, tree.walk place (names ++ [name]) = .ok result := by
  induction names generalizing place with
  | nil =>
    cases h
    exact ⟨_, walk_cons_eq_ok_iff.2 ⟨hkind, rfl⟩⟩
  | cons first rest ih =>
    obtain ⟨hfirst, hrest⟩ := walk_cons_eq_ok_iff.1 h
    obtain ⟨result, hresult⟩ := ih hrest
    exact ⟨result, walk_cons_eq_ok_iff.2 ⟨hfirst, hresult⟩⟩

/-- The path leads somewhere. -/
def Leads (tree : FileTree) (path : Path) : Prop :=
  tree.walk [] path.names = .ok path.place

theorem leads_of_walk {result : List String} (h : tree.walk [] path.names = .ok result) :
    tree.Leads path := by
  rw [Leads, h, walk_eq_ok h]
  rfl

theorem Grows.leads (hgrows : tree.Grows next) (h : tree.Leads path) : next.Leads path :=
  hgrows.walk h

theorem walk_error_or_leads (tree : FileTree) (path : Path) :
    (∃ problem, tree.walk [] path.names = .error problem) ∨ tree.Leads path := by
  cases hwalk : tree.walk [] path.names with
  | error problem => exact .inl ⟨problem, rfl⟩
  | ok place => exact .inr (leads_of_walk hwalk)

theorem read_eq_ok_iff {content : List UInt8} : tree.read path = .ok content ↔
    tree.Leads path ∧ tree.node? path.place = some (.file content) := by
  obtain ⟨problem, hwalk⟩ | hleads := tree.walk_error_or_leads path
  · simp [read, Leads, hwalk]
  · have hwalk : tree.walk [] path.names = .ok path.place := hleads
    rcases hnode : tree.node? path.place with _ | _ | content' <;>
      simp [read, hwalk, hleads, hnode]

theorem find?_eq_some_iff {node : FileNode} : tree.find? path = some node ↔
    tree.Leads path ∧ tree.node? path.place = some node := by
  obtain ⟨problem, hwalk⟩ | hleads := tree.walk_error_or_leads path
  · simp [find?, Leads, hwalk]
  · have hwalk : tree.walk [] path.names = .ok path.place := hleads
    simp [find?, hwalk, hleads]

/-! ### Changes -/

theorem grows_put {place : List String} {node : FileNode}
    (h : ∀ kind, tree.kind? place = some kind → kind = kindOf node) :
    tree.Grows (tree.put place node) := by
  intro other kind hkind
  by_cases hother : other = []
  · subst hother
    exact hkind
  · rw [kind?, node?_put tree place other node hother]
    split
    · next hplace =>
      subst hplace
      rw [h kind hkind]
      rfl
    · exact hkind

theorem held_put {place : List String} (hplace : place ≠ []) (content : List UInt8)
    (other : List String) : (tree.put place (.file content)).held other =
      if place = other then content else tree.held other := by
  by_cases hother : other = []
  · rw [if_neg (hother ▸ hplace)]
    subst hother
    rfl
  · rw [held, node?_put tree place other _ hother]
    by_cases h : place = other <;> simp [h, held]

/-- What stands at the root is a directory. -/
theorem ne_nil_of_kind? {place : List String} (h : tree.kind? place ≠ some .directory) :
    place ≠ [] := by
  rintro rfl
  exact h rfl

theorem write_eq_ok {f : List UInt8 → List UInt8} (h : tree.write path f = .ok next) :
    tree.Leads path ∧ tree.kind? path.place ≠ some .directory ∧
      next = tree.put path.place (.file (f (tree.held path.place))) := by
  obtain ⟨problem, hwalk⟩ | hleads := tree.walk_error_or_leads path
  · simp [write, hwalk] at h
  · have hwalk : tree.walk [] path.names = .ok path.place := hleads
    rcases hnode : tree.node? path.place with _ | _ | content <;>
      simp [write, hwalk, hnode] at h <;> simp [kind?, held, hnode, kindOf, hleads, h]

theorem makeDirectory_eq_ok (h : tree.makeDirectory path = .ok next) :
    tree.Leads path ∧ tree.node? path.place = none ∧ next = tree.put path.place .directory := by
  obtain ⟨problem, hwalk⟩ | hleads := tree.walk_error_or_leads path
  · simp [makeDirectory, hwalk] at h
  · have hwalk : tree.walk [] path.names = .ok path.place := hleads
    cases hnode : tree.node? path.place with
    | none => simp_all [makeDirectory]
    | some node => simp [makeDirectory, hwalk, hnode] at h

theorem grows_write {f : List UInt8 → List UInt8} (h : tree.write path f = .ok next) :
    tree.Grows next := by
  obtain ⟨-, hkind, rfl⟩ := write_eq_ok h
  refine grows_put fun kind h => ?_
  cases kind with
  | file => rfl
  | directory => exact absurd h hkind

theorem held_write {f : List UInt8 → List UInt8} (h : tree.write path f = .ok next)
    (place : List String) :
    next.held place = if path.place = place then f (tree.held place) else tree.held place := by
  obtain ⟨-, hkind, rfl⟩ := write_eq_ok h
  rw [held_put (ne_nil_of_kind? hkind)]
  split
  · next hplace => rw [hplace]
  · rfl

theorem read_write {f : List UInt8 → List UInt8} (h : tree.write path f = .ok next) :
    next.read path = .ok (f (tree.held path.place)) := by
  have hgrows := grows_write h
  obtain ⟨hleads, hkind, rfl⟩ := write_eq_ok h
  refine read_eq_ok_iff.2 ⟨hgrows.leads hleads, ?_⟩
  rw [node?_put _ _ _ _ (ne_nil_of_kind? hkind), if_pos rfl]

theorem grows_makeDirectory (h : tree.makeDirectory path = .ok next) : tree.Grows next := by
  obtain ⟨-, hnone, rfl⟩ := makeDirectory_eq_ok h
  exact grows_put fun kind h => by simp [kind?, hnone] at h

theorem held_makeDirectory (h : tree.makeDirectory path = .ok next) (place : List String) :
    next.held place = tree.held place := by
  obtain ⟨-, hnone, rfl⟩ := makeDirectory_eq_ok h
  by_cases hplace : place = []
  · subst hplace
    rfl
  · rw [held, node?_put _ _ _ _ hplace]
    by_cases h : path.place = place
    · rw [if_pos h, held, ← h, hnone]
    · rw [if_neg h, held]

theorem find?_makeDirectory (h : tree.makeDirectory path = .ok next) :
    next.find? path = some .directory := by
  have hgrows := grows_makeDirectory h
  obtain ⟨hleads, hnone, rfl⟩ := makeDirectory_eq_ok h
  have hkind : tree.kind? path.place ≠ some .directory := by
    rw [kind?, hnone]
    nofun
  refine find?_eq_some_iff.2 ⟨hgrows.leads hleads, ?_⟩
  rw [node?_put _ _ _ _ (ne_nil_of_kind? hkind), if_pos rfl]

theorem Grows.find?_directory (hgrows : tree.Grows next) (h : tree.find? path = some .directory) :
    next.find? path = some .directory := by
  obtain ⟨hleads, hnode⟩ := find?_eq_some_iff.1 h
  refine find?_eq_some_iff.2 ⟨hgrows.leads hleads, ?_⟩
  exact kind?_eq_directory_iff.1 (hgrows _ _ (kind?_eq_directory_iff.2 hnode))

/-- A file that can be read. -/
def IsFile (tree : FileTree) (path : Path) : Prop :=
  tree.Leads path ∧ tree.kind? path.place = some .file

theorem Grows.isFile (hgrows : tree.Grows next) (h : tree.IsFile path) : next.IsFile path :=
  ⟨hgrows.leads h.1, hgrows _ _ h.2⟩

theorem IsFile.exists_write (h : tree.IsFile path) (f : List UInt8 → List UInt8) :
    ∃ next, tree.write path f = .ok next := by
  have hwalk : tree.walk [] path.names = .ok path.place := h.1
  have hkind := h.2
  rcases hnode : tree.node? path.place with _ | _ | content
  · simp [kind?, hnode] at hkind
  · simp [kind?, hnode, kindOf] at hkind
  · refine ⟨tree.put path.place (.file (f content)), ?_⟩
    rw [write, hwalk]
    simp only [hnode]

end FileTree

end SchemaAtlas

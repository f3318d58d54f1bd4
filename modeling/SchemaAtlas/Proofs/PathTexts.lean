import SchemaAtlas.Path

/-!
# Paths and their texts

The names of a path that is read from a text are not empty, have no slash and are no single dots,
and a path of such names is read back from its written form (`ofText_text`).
-/

namespace SchemaAtlas

open Text

namespace Path

/-- Each name can stand between two slashes and has a meaning there. -/
def IsNormal (p : Path) : Prop :=
  ∀ name ∈ p.names, name ≠ "" ∧ name ≠ "." ∧ '/' ∉ name.toList

variable {p : Path}

/-! ### Reading -/

theorem isNormal_ofText (s : String) : (ofText s).IsNormal := by
  intro name hname
  obtain ⟨part, hpart, rfl⟩ := List.mem_map.1 hname
  rw [List.mem_filter, Bool.and_eq_true, Bool.not_eq_true', List.isEmpty_eq_false_iff,
    bne_iff_ne] at hpart
  obtain ⟨hmem, hne, hdot⟩ := hpart
  rw [String.toList_ofList]
  refine ⟨fun h => hne ?_, fun h => hdot ?_, notMem_of_mem_cutAt hmem⟩
  · simpa using congrArg String.toList h
  · simpa using congrArg String.toList h

theorem isNormal_ofHome {home : String} {q : Path} (h : ofHome home = .ok q) : q.IsNormal := by
  unfold ofHome at h
  split at h
  · obtain rfl := Except.ok.inj h
    exact List.forall_mem_nil _
  · cases h
  · exact Except.ok.inj h ▸ isNormal_ofText _

theorem isNormal_homeOf {homes : Homes} {user : List Char} {q : Path}
    (h : homeOf homes user = .ok q) : q.IsNormal := by
  unfold homeOf at h
  split at h
  · cases h
  split at h
  · exact isNormal_ofHome h
  · cases h

theorem isNormal_expandHome {homes : Homes} {q : Path} (hp : p.IsNormal)
    (h : p.expandHome homes = .ok q) : q.IsNormal := by
  unfold expandHome at h
  split at h
  · rename_i first rest _ hnames
    split at h
    · rename_i user _
      cases hhome : homeOf homes user with
      | error fault => simp [hhome, Except.map] at h
      | ok home =>
        rw [hhome] at h
        obtain rfl := Except.ok.inj h
        refine List.forall_mem_append.2 ⟨isNormal_homeOf hhome, fun name hname => hp name ?_⟩
        rw [hnames]
        exact List.mem_cons_of_mem _ hname
    · exact Except.ok.inj h ▸ hp
  · exact Except.ok.inj h ▸ hp

theorem expandHome_of_isAbsolute (homes : Homes) (h : p.isAbsolute) :
    p.expandHome homes = .ok p := by
  unfold expandHome
  split
  · rename_i hroot _
    simp [isAbsolute, hroot] at h
  · rfl

/-! ### Reading back -/

theorem namesOf_slash (cs : List Char) : namesOf ('/' :: cs) = namesOf cs := by
  simp [namesOf, cutAt]

theorem namesOf_joined (h : p.IsNormal) : namesOf (joined "/" p.names).toList = p.names := by
  by_cases hne : p.names = []
  · rw [hne]
    rfl
  · have hcut : cutAt '/' (joined "/" p.names).toList = p.names.map String.toList :=
      cutAt_toList_joined hne fun name hname => (h name hname).2.2
    have hkeep : ∀ cs ∈ p.names.map String.toList, (!cs.isEmpty && cs != ['.']) = true := by
      rw [List.forall_mem_map]
      intro name hname
      obtain ⟨hempty, hdot, -⟩ := h name hname
      have hdot' : name.toList ≠ ".".toList := fun heq => hdot (String.toList_inj.1 heq)
      simpa [hempty] using hdot'
    rw [namesOf, hcut, List.filter_eq_self.2 hkeep, List.map_map]
    simp [Function.comp_def]

theorem head?_joined_ne (h : p.IsNormal) : (joined "/" p.names).toList.head? ≠ some '/' := by
  cases hnames : p.names with
  | nil => exact nofun
  | cons name rest =>
    obtain ⟨hempty, -, hslash⟩ := h name (by simp [hnames])
    obtain ⟨c, cs, hname⟩ := List.exists_cons_of_ne_nil (mt String.toList_eq_nil_iff.1 hempty)
    have hhead : (joined "/" (name :: rest)).toList.head? = some c := by
      cases rest <;> simp [joined, hname]
    rw [hhead]
    rintro ⟨⟩
    simp [hname] at hslash

theorem rootOf_slash {cs : List Char} (h : cs.head? ≠ some '/') : rootOf ('/' :: cs) = .slash := by
  cases cs with
  | nil => rfl
  | cons c cs => simp_all [rootOf]

theorem rootOf_doubleSlash {cs : List Char} (h : cs.head? ≠ some '/') :
    rootOf ('/' :: '/' :: cs) = .doubleSlash := by
  cases cs with
  | nil => rfl
  | cons c cs => simp_all [rootOf]

theorem rootOf_relative {cs : List Char} (h : cs.head? ≠ some '/') : rootOf cs = .relative := by
  cases cs with
  | nil => rfl
  | cons c cs => simp_all [rootOf]

/-- A path of such names is read back from its written form. -/
theorem ofText_text (h : p.IsNormal) : ofText p.text = p := by
  have hhead := head?_joined_ne h
  have hnames := namesOf_joined h
  obtain ⟨root, names⟩ := p
  cases root with
  | relative =>
    cases names with
    | nil => rfl
    | cons name rest =>
      have htext : text ⟨.relative, name :: rest⟩ = joined "/" (name :: rest) := rfl
      rw [ofText, htext, rootOf_relative hhead, hnames]
  | slash =>
    have htext : (text ⟨.slash, names⟩).toList = '/' :: (joined "/" names).toList :=
      String.toList_append
    rw [ofText, htext, rootOf_slash hhead, namesOf_slash, hnames]
  | doubleSlash =>
    have htext : (text ⟨.doubleSlash, names⟩).toList = '/' :: '/' :: (joined "/" names).toList :=
      String.toList_append
    rw [ofText, htext, rootOf_doubleSlash hhead, namesOf_slash, namesOf_slash, hnames]

theorem head?_text_of_isAbsolute (h : p.isAbsolute) : p.text.toList.head? = some '/' := by
  obtain ⟨root, names⟩ := p
  cases root with
  | relative => cases h
  | slash => rw [text, String.toList_append]; rfl
  | doubleSlash => rw [text, String.toList_append]; rfl

end Path

end SchemaAtlas

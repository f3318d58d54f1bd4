import SchemaAtlas.Proofs.Yaml.Values
import SchemaAtlas.Proofs.Yaml.WrittenEntries

/-!
# Files of gaps and entries

A file is written line by line, and each line is a part of a gap or an entry (`FileLine`).  An entry
says the value that the scalar of its line stands for (`FileLine.Says`).

Main statement: the value of a file are the entries that its lines say
(`FileLine.ofYaml_linesText_eq_ok_iff`).
-/

namespace SchemaAtlas.Yaml

/-- A line of a file: a part of a gap, or an entry. -/
inductive FileLine where
  | gap (line : String)
  | entry (name line : String)

namespace FileLine

/-- The text of the line. -/
def text : FileLine → String
  | gap line => line
  | entry name line => name ++ ": " ++ line

/-- The name of an entry, and its line. -/
def stated? : FileLine → Option (String × String)
  | gap _ => none
  | entry name line => some (name, line)

/-- The name of an entry, and what its line says. -/
def said? (e : String × String) : Option (String × String) :=
  (lineScalar? e.2.toList).map fun text => (e.1, .ofList text)

/-- The line is what it is for the reader too. -/
def IsWellFormed (l : FileLine) : Prop :=
  (∀ d ∈ l.text.toList, IsTextChar d) ∧
    match l with
    | gap line => IsGapLine line.toList
    | entry name line => IsEntryName name.toList ∧ IsScalarLine line.toList

instance : DecidablePred IsWellFormed := fun l =>
  match l with
  | gap _ => inferInstanceAs (Decidable (_ ∧ IsGapLine _))
  | entry _ _ => inferInstanceAs (Decidable (_ ∧ IsEntryName _ ∧ IsScalarLine _))

/-- The gap at the start of a file, and its entries with the gaps behind them. -/
def gathered : List FileLine → List (List Char) × List WrittenEntry
  | [] => ([], [])
  | gap line :: rest => (line.toList :: (gathered rest).1, (gathered rest).2)
  | entry name line :: rest =>
    ([], ⟨name.toList, line.toList, (gathered rest).1⟩ :: (gathered rest).2)

/-- The text of a file. -/
def linesText (ls : List FileLine) : List Char :=
  gapText (ls.map fun l => l.text.toList)

variable {ls : List FileLine}

theorem isTextChar_text_entry {name line : String} (hname : IsEntryName name.toList)
    (hline : ∀ d ∈ line.toList, IsTextChar d) :
    ∀ d ∈ (entry name line).text.toList, IsTextChar d := by
  intro d hd
  rw [text, String.toList_append, String.toList_append, List.mem_append, List.mem_append] at hd
  rcases hd with (hd | hd) | hd
  · exact isTextChar_of_isNameChar (hname.chars d hd)
  · have hsign : ∀ e ∈ ": ".toList, IsTextChar e := by decide
    exact hsign d hd
  · exact hline d hd

theorem linesText_cons (l : FileLine) (ls : List FileLine) :
    linesText (l :: ls) = l.text.toList ++ '\n' :: linesText ls := by
  simp [linesText, gapText]

theorem linesText_eq_gathered (ls : List FileLine) :
    linesText ls = gapText (gathered ls).1 ++ (gathered ls).2.flatMap WrittenEntry.text := by
  induction ls with
  | nil => rfl
  | cons l ls ih =>
    rw [linesText_cons, ih]
    cases l with
    | gap line => simp [gathered, text, gapText]
    | entry name line => simp [gathered, text, gapText, WrittenEntry.text]

theorem isWellFormed_gathered (h : ∀ l ∈ ls, l.IsWellFormed) :
    (∀ line ∈ (gathered ls).1, IsGapLine line) ∧ ∀ e ∈ (gathered ls).2, e.IsWellFormed := by
  induction ls with
  | nil => exact ⟨fun _ => nofun, fun _ => nofun⟩
  | cons l ls ih =>
    obtain ⟨hl, hls⟩ := List.forall_mem_cons.1 h
    obtain ⟨hgap, hes⟩ := ih hls
    cases l with
    | gap line => exact ⟨List.forall_mem_cons.2 ⟨hl.2, hgap⟩, hes⟩
    | entry name line =>
      exact ⟨fun _ => nofun, List.forall_mem_cons.2 ⟨⟨hl.2.1, hl.2.2, hgap⟩, hes⟩⟩

/-- The nodes of plain names and values. -/
def plainNodes (es : List (String × String)) : List (Node × Node) :=
  es.map fun e => (.plain e.1, .plain e.2)

theorem mapM_nodes?_gathered (ls : List FileLine) :
    (gathered ls).2.mapM WrittenEntry.nodes? =
      ((ls.filterMap stated?).mapM said?).map plainNodes := by
  induction ls with
  | nil => rfl
  | cons l ls ih =>
    cases l with
    | gap line => exact ih
    | entry name line =>
      have hstated : (entry name line :: ls).filterMap stated? =
          (name, line) :: ls.filterMap stated? := rfl
      rw [hstated, gathered, List.mapM_cons, List.mapM_cons, ih, WrittenEntry.nodes?, said?]
      cases lineScalar? line.toList with
      | none => rfl
      | some text => cases (ls.filterMap stated?).mapM said? <;> simp [plainNodes]

theorem isTextChar_linesText (h : ∀ l ∈ ls, l.IsWellFormed) : ∀ d ∈ linesText ls, IsTextChar d := by
  intro d hd
  rw [linesText, gapText, List.flatMap_map, List.mem_flatMap] at hd
  obtain ⟨l, hl, hd⟩ := hd
  rcases List.mem_append.1 hd with hd | hd
  · exact (h l hl).1 d hd
  · obtain rfl := List.mem_singleton.1 hd
    exact ⟨rfl, by decide, by decide⟩

theorem map_fst_said {stated es : List (String × String)} (h : stated.mapM said? = some es) :
    es.map Prod.fst = stated.map Prod.fst := by
  have hsaid := mapM_eq_some_iff.1 h
  clear h
  induction hsaid with
  | nil => rfl
  | cons he _ ih =>
    obtain ⟨text, -, rfl⟩ := Option.map_eq_some_iff.1 he
    rw [List.map_cons, List.map_cons, ih]

/-- The value that a line says. -/
def Says (line : String) (d : Data) : Prop :=
  ∃ text, lineScalar? line.toList = some text ∧ StandsFor (.ofList text) d

theorem Says.unique {line : String} {d d' : Data} (h : Says line d) (h' : Says line d') :
    d = d' := by
  obtain ⟨text, htext, v, hv, rfl⟩ := h
  obtain ⟨text', htext', v', hv', rfl⟩ := h'
  obtain rfl := Option.some.inj (htext.symm.trans htext')
  rw [Plain.value.inj (hv.symm.trans hv')]

/-- The entry that a name and a line say. -/
def SaysEntry (e : String × String) (f : Scalar × Data) : Prop :=
  f.1 = .text e.1 ∧ Says e.2 f.2

theorem forall₂_saysEntry_iff {stated : List (String × String)} {found : List (Scalar × Data)} :
    List.Forall₂ SaysEntry stated found ↔
      ∃ es, stated.mapM said? = some es ∧ List.Forall₂ IsEntryOf es found := by
  simp only [mapM_eq_some_iff]
  constructor
  · intro h
    induction h with
    | nil => exact ⟨[], .nil, .nil⟩
    | @cons e f stated found hf _ ih =>
      obtain ⟨es, hes, hfound⟩ := ih
      obtain ⟨hkey, text, htext, hvalue⟩ := hf
      have hsaid : said? e = some (e.1, .ofList text) := Option.map_eq_some_iff.2 ⟨text, htext, rfl⟩
      exact ⟨(e.1, .ofList text) :: es, .cons hsaid hes, .cons ⟨hkey, hvalue⟩ hfound⟩
  · rintro ⟨es, hes, hfound⟩
    induction hes generalizing found with
    | nil => exact List.forall₂_nil_left_iff.2 (List.forall₂_nil_left_iff.1 hfound)
    | cons he _ ih =>
      obtain ⟨f, found, hf, hmore, rfl⟩ := List.forall₂_cons_left_iff.1 hfound
      obtain ⟨text, htext, rfl⟩ := Option.map_eq_some_iff.1 he
      exact .cons ⟨hf.1, text, htext, hf.2⟩ (ih hmore)

/-- A line says its own text if it is a bare text that stands for itself. -/
theorem says_self_iff {s : String} (h : IsScalarLine s.toList) :
    Says s (.text s) ↔ IsBare s.toList ∧ Plain.ofText s = .value (.text s) := by
  rw [← lineScalar?_eq_some_self_iff h.inner h.begins]
  constructor
  · rintro ⟨text, htext, v, hv, hd⟩
    obtain rfl : .text s = v := Data.scalar.inj hd
    obtain rfl : s = .ofList text := eq_of_ofText_eq_text hv
    rw [String.toList_ofList] at htext ⊢
    exact ⟨htext, hv⟩
  · rintro ⟨hself, hplain⟩
    exact ⟨_, hself, .text s, by rwa [String.ofList_toList], rfl⟩

/-- The value of a file: what its entries say, or nothing if there are none. -/
theorem ofYaml_linesText_eq_ok_iff (h : ∀ l ∈ ls, l.IsWellFormed)
    (hnames : ∀ name ∈ (ls.filterMap stated?).map Prod.fst, Plain.ofText name = .value (.text name))
    (hnodup : ((ls.filterMap stated?).map Prod.fst).Nodup) {d : Data} :
    Data.ofYaml (.ofList (linesText ls)) = .ok d ↔
      if ls.filterMap stated? = [] then d = .null
      else ∃ found, List.Forall₂ SaysEntry (ls.filterMap stated?) found ∧ .mapping found = d := by
  obtain ⟨hgap, hes⟩ := isWellFormed_gathered h
  have hchars := isTextChar_linesText h
  rw [linesText_eq_gathered] at hchars
  rw [Data.ofYaml, linesText_eq_gathered, ofText?_entriesText hgap hes hchars,
    mapM_nodes?_gathered]
  simp only [forall₂_saysEntry_iff]
  generalize ls.filterMap stated? = stated at *
  cases hsaid : stated.mapM said? with
  | none =>
    have hne : stated ≠ [] := by
      rintro rfl
      cases hsaid
    simp [hne]
  | some es =>
    have hkeys := map_fst_said hsaid
    have hnil : stated = [] ↔ es = [] := by
      rw [← List.map_eq_nil_iff, ← hkeys, List.map_eq_nil_iff]
    have hdata := fun d => @data_plain_eq_ok_iff es
      (fun e he => hnames e.1 (hkeys ▸ List.mem_map_of_mem he)) (hkeys ▸ hnodup) d
    simp only [Option.map_some, Option.some.injEq, exists_eq_left', if_congr hnil rfl rfl]
    rw [nodeOf]
    cases es with
    | nil => exact ⟨fun hd => (Except.ok.inj hd).symm, fun hd => congrArg Except.ok hd.symm⟩
    | cons e es => exact hdata d

end FileLine

end SchemaAtlas.Yaml

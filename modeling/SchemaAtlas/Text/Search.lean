/-!
# Searching a text

`after?` reads a fixed word at the start of a text.  `first?` tries a reader at every position from
the left and keeps the first success; the reader is told the character before its position, because
some words count only where no longer word runs into them.  `afterFirst?` is the text behind the
first occurrence of a word.
-/

namespace SchemaAtlas.Text

/-- The text behind `word`, if the text starts with it. -/
def after? (word : String) (cs : List Char) : Option (List Char) :=
  word.toList.isPrefixOf? cs

/-- The text starts with `word`. -/
def startsWith (word : String) (cs : List Char) : Bool :=
  word.toList.isPrefixOf cs

/-- The first success of `read` from the left, where `before` is the character in front of the
text. -/
def firstFrom? {α : Type} (read : Option Char → List Char → Option α) (before : Option Char) :
    List Char → Option α
  | [] => read before []
  | c :: rest =>
    match read before (c :: rest) with
    | some a => some a
    | none => firstFrom? read (some c) rest

/-- The first success of `read` from the left. -/
def first? {α : Type} (read : Option Char → List Char → Option α) (cs : List Char) : Option α :=
  firstFrom? read none cs

/-- The text behind the first occurrence of `word`. -/
def afterFirst? (word : String) (cs : List Char) : Option (List Char) :=
  first? (fun _ => after? word) cs

/-- The text in front of the first occurrence of `c` and the text behind it. -/
def cutFirst? (c : Char) : List Char → Option (List Char × List Char)
  | [] => none
  | d :: rest =>
    if d = c then some ([], rest)
    else (cutFirst? c rest).map fun cut => (d :: cut.1, cut.2)

theorem eq_append_of_cutFirst? {c : Char} {cs front back : List Char}
    (h : cutFirst? c cs = some (front, back)) : cs = front ++ c :: back ∧ c ∉ front := by
  induction cs generalizing front with
  | nil => simp [cutFirst?] at h
  | cons d cs ih =>
    simp only [cutFirst?] at h
    split at h
    · rename_i hd
      obtain ⟨rfl, rfl⟩ : [] = front ∧ cs = back := by simpa using h
      simp [hd]
    · rename_i hd
      obtain ⟨⟨f, b⟩, hcut, he⟩ := Option.map_eq_some_iff.1 h
      obtain ⟨rfl, rfl⟩ : d :: f = front ∧ b = back := by simpa using he
      obtain ⟨rfl, hf⟩ := ih hcut
      exact ⟨rfl, by simp [hf, Ne.symm hd]⟩

end SchemaAtlas.Text

import Mathlib.Data.List.Basic
import Mathlib.Data.List.Induction
import Mathlib.Data.List.TakeWhile
import Mathlib.Tactic.SplitIfs
import SchemaAtlas.Schema.Attribute

/-!
# String literals and comments on a line

A `LineState` is what somebody knows who has read a line up to some place and keeps track of
string literals and comments: `stateAfter` says in which state the text in front of the place ends.
Reading of comments and of arguments keeps track in the same way, so both go on behind a text as its
state says (`cutComment_append`, `argumentFrom_append_of_eq`), and both pass over the characters of
a string literal without looking at them (`cutComment_literal`, `argumentFrom_literal`).
-/

namespace SchemaAtlas

/-- Where on a line a place can be. -/
inductive LineState where
  | code
  /-- In the code, behind a slash. -/
  | slash
  | quoted
  /-- In a string literal, behind a backslash that protects the next character. -/
  | escaped
  | comment
  deriving DecidableEq

namespace LineState

/-- The state behind one more character. -/
def next : LineState → Char → LineState
  | code, c => if c = '"' then quoted else if c = '/' then slash else code
  | slash, c => if c = '"' then quoted else if c = '/' then comment else code
  | quoted, c => if c = '\\' then escaped else if c = '"' then code else quoted
  | escaped, _ => quoted
  | comment, _ => comment

/-- The state behind a text that is read from state `s` on. -/
def after (s : LineState) (cs : List Char) : LineState :=
  cs.foldl next s

/-- In the code, outside string literals and comments. -/
def inCode : LineState → Bool
  | code | slash => true
  | quoted | escaped | comment => false

/-- In a string literal that has not been closed. -/
def inLiteral : LineState → Bool
  | quoted | escaped => true
  | code | slash | comment => false

/-- The next character is neither protected nor part of a comment, and `inside` says whether it
stands in a string literal. -/
def Agrees : LineState → Bool → Prop
  | code, inside | slash, inside => inside = false
  | quoted, inside => inside = true
  | escaped, _ | comment, _ => False

end LineState

/-- The state behind the text at the start of a line. -/
def stateAfter (cs : List Char) : LineState :=
  .after .code cs

/-- The text can stand between the quotes of a string literal: a quote in it is protected by a
backslash, and its last character is no backslash that would protect the closing quote. -/
def isLiteralText : List Char → Bool
  | [] => true
  | c :: rest =>
    if c = '\\' then
      match rest with
      | [] => false
      | _ :: rest => isLiteralText rest
    else c != '"' && isLiteralText rest

namespace LineState

@[simp] theorem after_nil (s : LineState) : s.after [] = s := rfl

@[simp] theorem after_cons (s : LineState) (c : Char) (cs : List Char) :
    s.after (c :: cs) = (s.next c).after cs := rfl

@[simp] theorem after_append (s : LineState) (cs ds : List Char) :
    s.after (cs ++ ds) = (s.after cs).after ds :=
  List.foldl_append

@[simp] theorem after_comment (cs : List Char) : comment.after cs = comment := by
  induction cs with
  | nil => rfl
  | cons c cs ih => exact ih

/-- Two slashes in the code lead into a comment. -/
theorem after_slashes {s : LineState} (h : s.inCode) (cs : List Char) :
    s.after ('/' :: '/' :: cs) = comment := by
  cases s <;> first | exact after_comment cs | cases h

theorem next_of_inCode {s : LineState} (h : s.inCode) {c : Char} (hquote : c ≠ '"')
    (hslash : c ≠ '/') : s.next c = code := by
  cases s with
  | code | slash => simp only [next, if_neg hquote, if_neg hslash]
  | _ => cases h

theorem next_of_isBlank {s : LineState} (h : s.inCode) {c : Char} (hc : Text.isBlank c) :
    s.next c = code :=
  next_of_inCode h (fun heq => absurd (heq ▸ hc) (by decide))
    fun heq => absurd (heq ▸ hc) (by decide)

theorem after_of_all_isBlank {cs : List Char} (h : ∀ c ∈ cs, Text.isBlank c) :
    code.after cs = code := by
  induction cs with
  | nil => rfl
  | cons c cs ih =>
    obtain ⟨hc, hcs⟩ := List.forall_mem_cons.1 h
    rw [after_cons, next_of_isBlank rfl hc, ih hcs]

theorem after_of_plain {cs : List Char} (h : ∀ c ∈ cs, c ≠ '"' ∧ c ≠ '/') :
    code.after cs = code := by
  induction cs with
  | nil => rfl
  | cons c cs ih =>
    obtain ⟨hc, hcs⟩ := List.forall_mem_cons.1 h
    have hnext : code.next c = code := by simp only [next, if_neg hc.1, if_neg hc.2]
    rw [after_cons, hnext, ih hcs]

/-- Only a quote can open a string literal. -/
theorem not_inLiteral_next {s : LineState} (hs : ¬ s.inLiteral) {c : Char} (hc : c ≠ '"') :
    ¬ (s.next c).inLiteral := by
  cases s with
  | code | slash => simp only [next, if_neg hc]; split_ifs <;> exact Bool.false_ne_true
  | quoted | escaped => exact absurd rfl hs
  | comment => exact hs

theorem not_inLiteral_after {s : LineState} (hs : ¬ s.inLiteral) {cs : List Char} (h : '"' ∉ cs) :
    ¬ (s.after cs).inLiteral := by
  induction cs generalizing s with
  | nil => exact hs
  | cons c cs ih =>
    obtain ⟨hc, hcs⟩ := List.ne_and_not_mem_of_not_mem_cons h
    exact ih (not_inLiteral_next hs hc.symm) hcs

theorem inCode_of_not_inLiteral {s : LineState} (h : ¬ s.inLiteral) (hcomment : s ≠ comment) :
    s.inCode := by
  cases s <;> simp_all [inLiteral, inCode]

/-- Only a quote can close a string literal. -/
theorem inLiteral_after {s : LineState} (hs : s.inLiteral) {cs : List Char} (h : '"' ∉ cs) :
    (s.after cs).inLiteral := by
  induction cs generalizing s with
  | nil => exact hs
  | cons c cs ih =>
    obtain ⟨hc, hcs⟩ := List.ne_and_not_mem_of_not_mem_cons h
    refine ih ?_ hcs
    cases s with
    | quoted => simp only [next, if_neg hc.symm]; split_ifs <;> rfl
    | escaped => rfl
    | _ => cases hs

theorem next_eq_slash_iff {s : LineState} {c : Char} : s.next c = slash ↔ s = code ∧ c = '/' := by
  cases s with
  | code | slash | quoted => simp only [next]; split_ifs <;> simp_all
  | escaped | comment => simp [next]

theorem next_eq_comment_iff {s : LineState} {c : Char} :
    s.next c = comment ↔ s = comment ∨ s = slash ∧ c = '/' := by
  cases s with
  | code | slash | quoted => simp only [next]; split_ifs <;> simp_all
  | escaped | comment => simp [next]

theorem next_eq_escaped_iff {s : LineState} {c : Char} :
    s.next c = escaped ↔ s = quoted ∧ c = '\\' := by
  cases s with
  | code | slash | quoted => simp only [next]; split_ifs <;> simp_all
  | escaped | comment => simp [next]

theorem after_eq_slash {s : LineState} (hs : s ≠ slash) {cs : List Char}
    (h : s.after cs = slash) : ∃ front, cs = front ++ ['/'] ∧ s.after front = code := by
  obtain rfl | ⟨front, c, rfl⟩ := List.eq_nil_or_concat' cs
  · exact absurd h hs
  · rw [after_append] at h
    obtain ⟨hfront, rfl⟩ := next_eq_slash_iff.1 h
    exact ⟨front, rfl, hfront⟩

theorem after_eq_escaped {s : LineState} (hs : s ≠ escaped) {cs : List Char}
    (h : s.after cs = escaped) : ∃ front, cs = front ++ ['\\'] ∧ s.after front = quoted := by
  obtain rfl | ⟨front, c, rfl⟩ := List.eq_nil_or_concat' cs
  · exact absurd h hs
  · rw [after_append] at h
    obtain ⟨hfront, rfl⟩ := next_eq_escaped_iff.1 h
    exact ⟨front, rfl, hfront⟩

/-- Only two slashes in the code lead into a comment. -/
theorem after_eq_comment {s : LineState} (hs : s ≠ comment ∧ s ≠ slash) {cs : List Char}
    (h : s.after cs = comment) : ∃ front back, cs = front ++ '/' :: '/' :: back ∧
      s.after front = code := by
  induction cs using List.reverseRecOn with
  | nil => exact absurd h hs.1
  | append_singleton cs c ih =>
    rw [after_append] at h
    obtain hcs | ⟨hcs, rfl⟩ := next_eq_comment_iff.1 h
    · obtain ⟨front, back, rfl, hfront⟩ := ih hcs
      exact ⟨front, back ++ [c], by simp, hfront⟩
    · obtain ⟨front, rfl, hfront⟩ := after_eq_slash hs.2 hcs
      exact ⟨front, [], by simp, hfront⟩

theorem agrees_true_iff {s : LineState} : s.Agrees true ↔ s = quoted := by
  cases s <;> simp [Agrees]

theorem agrees_false_iff {s : LineState} : s.Agrees false ↔ s.inCode := by
  cases s <;> simp [Agrees, inCode]

theorem Agrees.eq {s : LineState} {inside inside' : Bool} (h : s.Agrees inside)
    (h' : s.Agrees inside') : inside = inside' := by
  cases s <;> simp_all [Agrees]

theorem Agrees.next_ne_comment {s : LineState} {c : Char} {cs : List Char} {inside : Bool}
    (h : (s.after (c :: cs)).Agrees inside) : s.next c ≠ comment := by
  intro hnext
  rwa [after_cons, hnext, after_comment] at h

theorem agrees_next_quoted {c : Char} (h : c ≠ '\\') : (quoted.next c).Agrees (c != '"') := by
  by_cases hc : c = '"' <;> simp [next, Agrees, h, hc]

theorem agrees_next_code {s : LineState} (h : s.inCode) {c : Char} (hne : s.next c ≠ comment) :
    (s.next c).Agrees (c == '"') := by
  cases s with
  | code | slash => simp only [next] at hne ⊢; split_ifs at hne ⊢ <;> simp_all [Agrees]
  | _ => cases h

end LineState

open LineState

/-- A text that does not end in a comment holds two slashes in string literals only. -/
theorem stateAfter_ne_comment_iff {cs : List Char} : stateAfter cs ≠ comment ↔
    ∀ front back, cs = front ++ '/' :: '/' :: back → (stateAfter front).inLiteral := by
  constructor
  · rintro h front back rfl
    rw [stateAfter, after_append] at h
    cases hfront : stateAfter front with
    | code | slash =>
      rw [stateAfter] at hfront
      rw [hfront, after_slashes rfl] at h
      exact absurd rfl h
    | quoted | escaped => rfl
    | comment =>
      rw [stateAfter] at hfront
      rw [hfront, after_comment] at h
      exact absurd rfl h
  · intro h hcomment
    obtain ⟨front, back, heq, hfront⟩ := after_eq_comment (s := .code) (by simp) hcomment
    have hinside := h front back heq
    rw [stateAfter, hfront] at hinside
    cases hinside

/-- Blanks at the start of a line are code. -/
theorem stateAfter_trimLeft (cs : List Char) : stateAfter (Text.trimLeft cs) = stateAfter cs := by
  have hblank : ∀ c ∈ cs.takeWhile Text.isBlank, Text.isBlank c := fun c => List.mem_takeWhile_imp
  have hcs : cs = cs.takeWhile Text.isBlank ++ Text.trimLeft cs :=
    List.takeWhile_append_dropWhile.symm
  conv_rhs => rw [hcs, stateAfter, after_append, after_of_all_isBlank hblank]
  rfl

/-! ### The text of a literal -/

theorem isLiteralText_cons {c : Char} (hc : c ≠ '\\') (cs : List Char) :
    isLiteralText (c :: cs) ↔ c ≠ '"' ∧ isLiteralText cs := by
  rw [isLiteralText.eq_def]
  simp [hc]

theorem isLiteralText_of_notMem {cs : List Char} (hquote : '"' ∉ cs) (hescape : '\\' ∉ cs) :
    isLiteralText cs := by
  induction cs with
  | nil => rfl
  | cons c cs ih =>
    simp only [List.mem_cons, not_or] at hquote hescape
    exact (isLiteralText_cons (Ne.symm hescape.1) cs).2
      ⟨Ne.symm hquote.1, ih hquote.2 hescape.2⟩

/-- A string literal goes on behind its text. -/
theorem LineState.after_literal {cs : List Char} (h : isLiteralText cs) :
    quoted.after cs = quoted := by
  induction cs using isLiteralText.induct with
  | case1 => rfl
  | case2 => cases h
  | case3 d cs ih => exact ih h
  | case4 c cs hc ih =>
    obtain ⟨hquote, hcs⟩ := (isLiteralText_cons hc cs).1 h
    simpa [next, hc, hquote] using ih hcs

/-! ### Comments -/

namespace Attribute

theorem cutComment_escape (d : Char) (rest : List Char) :
    cutComment true ('\\' :: d :: rest) =
      ('\\' :: d :: (cutComment true rest).1, (cutComment true rest).2) := rfl

theorem cutComment_quoted {c : Char} (hc : c ≠ '\\') (rest : List Char) :
    cutComment true (c :: rest) =
      (c :: (cutComment (c != '"') rest).1, (cutComment (c != '"') rest).2) := by
  rw [cutComment.eq_def]
  simp only [if_true, if_neg hc]

theorem cutComment_code {c : Char} {rest : List Char} (hc : c = '/' → rest.head? ≠ some '/') :
    cutComment false (c :: rest) =
      (c :: (cutComment (c == '"') rest).1, (cutComment (c == '"') rest).2) := by
  have hslash : ¬ (decide (c = '/') && rest.head? == some '/') = true := by simpa using hc
  rw [cutComment.eq_def]
  simp only [Bool.false_eq_true, if_false, if_neg hslash]

theorem cutComment_slashes (rest : List Char) :
    cutComment false ('/' :: '/' :: rest) = ([], some rest) := rfl

/-- Behind a text that ends outside of comments, the cut goes on as the state of the text says. -/
theorem cutComment_append {s : LineState} {inside inside' : Bool} (hs : s.Agrees inside)
    {front rest : List Char} (hfront : (s.after front).Agrees inside')
    (hslash : s.after front = slash → rest.head? ≠ some '/') :
    cutComment inside (front ++ rest) =
      (front ++ (cutComment inside' rest).1, (cutComment inside' rest).2) := by
  induction inside, front using cutComment.induct generalizing s with
  | case1 inside =>
    obtain rfl := hs.eq hfront
    rfl
  | case2 =>
    obtain rfl := agrees_true_iff.1 hs
    exact hfront.elim
  | case3 d front ih =>
    obtain rfl := agrees_true_iff.1 hs
    have htail := ih hs hfront hslash
    simp only [List.cons_append, cutComment_escape, htail]
  | case4 c front hc ih =>
    obtain rfl := agrees_true_iff.1 hs
    have htail := ih (agrees_next_quoted hc) hfront hslash
    simp only [List.cons_append, cutComment_quoted hc, htail]
  | case5 inside c front hinside hcomment =>
    obtain rfl : inside = false := by simpa using hinside
    obtain ⟨rfl, hhead⟩ : c = '/' ∧ front.head? = some '/' := by simpa using hcomment
    obtain ⟨front, rfl⟩ := List.head?_eq_some_iff.1 hhead
    rw [after_slashes (agrees_false_iff.1 hs)] at hfront
    exact hfront.elim
  | case6 inside c front hinside hcode ih =>
    obtain rfl : inside = false := by simpa using hinside
    have hs := agrees_false_iff.1 hs
    have hne : s.next c ≠ comment := hfront.next_ne_comment
    have htail := ih (agrees_next_code hs hne) hfront hslash
    rw [List.cons_append, cutComment_code, htail]
    · rfl
    · -- the next character may be the first one behind the text
      rintro rfl
      cases front with
      | nil =>
        cases s with
        | code => exact hslash rfl
        | slash => exact hfront.elim
        | _ => cases hs
      | cons d front => simpa using hcode

theorem cutComment_append_of_inCode {front rest : List Char} (h : (stateAfter front).inCode)
    (hslash : stateAfter front = slash → rest.head? ≠ some '/') :
    cutComment false (front ++ rest) =
      (front ++ (cutComment false rest).1, (cutComment false rest).2) :=
  cutComment_append (s := code) rfl (agrees_false_iff.2 h) hslash

theorem cutComment_of_inCode {cs : List Char} (h : (stateAfter cs).inCode) :
    cutComment false cs = (cs, none) := by
  have hcut : cutComment false (cs ++ []) = _ := cutComment_append_of_inCode h (by simp)
  rwa [List.append_nil, cutComment, List.append_nil] at hcut

theorem cutComment_append_slashes {code : List Char} (h : stateAfter code = .code)
    (text : List Char) : cutComment false (code ++ '/' :: '/' :: text) = (code, some text) := by
  rw [cutComment_append_of_inCode (by rw [h]; rfl) (by simp [h]), cutComment_slashes,
    List.append_nil]

/-- Once a comment has begun, all that follows belongs to it. -/
theorem cutComment_append_of_comment {front : List Char} (h : stateAfter front = comment) :
    ∃ code text, ∀ more, cutComment false (front ++ more) = (code, some (text ++ more)) := by
  obtain ⟨code, text, rfl, hcode⟩ := after_eq_comment ⟨by simp, by simp⟩ h
  refine ⟨code, text, fun more => ?_⟩
  rw [List.append_assoc]
  exact cutComment_append_slashes hcode (text ++ more)

/-- A line that does not end in a comment is not cut. -/
theorem cutComment_of_ne_comment {cs : List Char} (h : stateAfter cs ≠ comment) :
    cutComment false cs = (cs, none) := by
  have hquoted : ∀ {front : List Char} (rest : List Char), stateAfter front = quoted →
      cutComment false (front ++ rest) =
        (front ++ (cutComment true rest).1, (cutComment true rest).2) := by
    intro front rest hfront
    have hagrees : (stateAfter front).Agrees true := agrees_true_iff.2 hfront
    exact cutComment_append (s := code) rfl hagrees fun hslash => by
      rw [← stateAfter, hfront] at hslash
      cases hslash
  cases hstate : stateAfter cs with
  | code | slash => exact cutComment_of_inCode (by rw [hstate]; rfl)
  | quoted =>
    have hcut := hquoted [] hstate
    rwa [List.append_nil, cutComment, List.append_nil] at hcut
  | escaped =>
    obtain ⟨front, rfl, hfront⟩ := after_eq_escaped (s := code) (by simp) hstate
    exact hquoted ['\\'] hfront
  | comment => exact absurd hstate h

theorem codeAndComment_of_ne_comment {cs : List Char} (h : stateAfter cs ≠ comment) :
    codeAndComment cs = (Text.trimRight cs, none) := by
  rw [codeAndComment, cutComment_of_ne_comment h]

theorem codeAndComment_append_slashes {code : List Char} (h : stateAfter code = .code)
    (text : List Char) : codeAndComment (code ++ '/' :: '/' :: text) =
      (Text.trimRight code, if Text.trim text = [] then none else some (.ofList (Text.trim text))) := by
  rw [codeAndComment, cutComment_append_slashes h]
  simp only [List.isEmpty_iff]

theorem cutComment_literal {cs : List Char} (h : isLiteralText cs) (rest : List Char) :
    cutComment true (cs ++ '"' :: rest) =
      (cs ++ '"' :: (cutComment false rest).1, (cutComment false rest).2) := by
  have hstate : (quoted.after cs).Agrees true := agrees_true_iff.2 (after_literal h)
  have hquote : cutComment true ('"' :: rest) =
      ('"' :: (cutComment false rest).1, (cutComment false rest).2) :=
    cutComment_quoted (by decide) rest
  rw [cutComment_append (agrees_true_iff.2 rfl) hstate (by simp [after_literal h]), hquote]

/-! ### Arguments -/

/-- How many parentheses are open behind a character of the code, unless it closes the argument. -/
def depthBehind? (depth : Nat) (c : Char) : Option Nat :=
  if c = '(' then some (depth + 1)
  else if c = ')' then (match depth with | 0 => none | depth + 1 => some depth)
  else some depth

theorem argumentFrom_escape (depth : Nat) (d : Char) (rest : List Char) :
    argumentFrom true depth ('\\' :: d :: rest) = '\\' :: d :: argumentFrom true depth rest := by
  rw [argumentFrom.eq_def]
  rfl

theorem argumentFrom_quoted (depth : Nat) {c : Char} (hc : c ≠ '\\') (rest : List Char) :
    argumentFrom true depth (c :: rest) = c :: argumentFrom (c != '"') depth rest := by
  rw [argumentFrom.eq_def]
  simp only [if_true, if_neg hc]

theorem argumentFrom_code (depth : Nat) (c : Char) (rest : List Char) :
    argumentFrom false depth (c :: rest) =
      match depthBehind? depth c with
      | none => []
      | some depth => c :: argumentFrom (c == '"') depth rest := by
  rw [argumentFrom.eq_def]
  by_cases hopen : c = '('
  · subst hopen
    rfl
  by_cases hclose : c = ')'
  · subst hclose
    cases depth <;> rfl
  by_cases hquote : c = '"'
  · subst hquote
    rfl
  simp [depthBehind?, hopen, hclose, hquote, beq_eq_false_iff_ne.2 hquote]

/-- Reading an argument goes character by character, and pairs of characters at a backslash in a
string literal. -/
@[elab_as_elim]
theorem argumentFrom_induction {motive : Bool → Nat → List Char → Prop}
    (nil : ∀ inside depth, motive inside depth [])
    (escape_nil : ∀ depth, motive true depth ['\\'])
    (escape : ∀ depth d rest, motive true depth rest → motive true depth ('\\' :: d :: rest))
    (quoted : ∀ depth c rest, c ≠ '\\' → motive (c != '"') depth rest →
      motive true depth (c :: rest))
    (close : ∀ depth c rest, depthBehind? depth c = none → motive false depth (c :: rest))
    (code : ∀ depth depth' c rest, depthBehind? depth c = some depth' →
      motive (c == '"') depth' rest → motive false depth (c :: rest))
    (inside : Bool) (depth : Nat) (cs : List Char) : motive inside depth cs := by
  induction hn : cs.length using Nat.strongRecOn generalizing inside depth cs with
  | ind n ih =>
    match inside, cs with
    | inside, [] => exact nil inside depth
    | false, c :: rest =>
      cases hdepth : depthBehind? depth c with
      | none => exact close depth c rest hdepth
      | some depth' =>
        exact code depth depth' c rest hdepth (ih _ (by simp [← hn]) _ _ rest rfl)
    | true, c :: rest =>
      by_cases hc : c = '\\'
      · subst hc
        match rest with
        | [] => exact escape_nil depth
        | d :: rest =>
          have hlength : rest.length < n := by
            rw [← hn, List.length_cons, List.length_cons]
            omega
          exact escape depth d rest (ih _ hlength _ _ rest rfl)
      · exact quoted depth c rest hc (ih _ (by simp [← hn]) _ _ rest rfl)

theorem argumentFrom_literal (depth : Nat) {cs : List Char} (h : isLiteralText cs)
    (rest : List Char) :
    argumentFrom true depth (cs ++ '"' :: rest) = cs ++ '"' :: argumentFrom false depth rest := by
  induction cs using isLiteralText.induct with
  | case1 => exact argumentFrom_quoted depth (by decide) rest
  | case2 => cases h
  | case3 d cs ih =>
    rw [List.cons_append, List.cons_append, argumentFrom_escape, ih h]
    rfl
  | case4 c cs hc ih =>
    obtain ⟨hquote, hcs⟩ := (isLiteralText_cons hc cs).1 h
    rw [List.cons_append, argumentFrom_quoted depth hc, bne_iff_ne.2 hquote, ih hcs]
    rfl

/-- An argument that is closed in a text ends there, whatever follows. -/
theorem argumentFrom_append_of_ne {inside : Bool} {depth : Nat} {front : List Char}
    (h : argumentFrom inside depth front ≠ front) (rest : List Char) :
    argumentFrom inside depth (front ++ rest) = argumentFrom inside depth front := by
  have htail : ∀ {c : Char} {arg front : List Char}, c :: arg ≠ c :: front → arg ≠ front :=
    fun hne heq => hne (congrArg _ heq)
  induction inside, depth, front using argumentFrom_induction with
  | nil inside depth => exact absurd (argumentFrom.eq_1 inside depth) h
  | escape_nil depth => exact absurd (by rw [argumentFrom.eq_def]; rfl) h
  | escape depth d front ih =>
    rw [argumentFrom_escape] at h
    simp only [List.cons_append, argumentFrom_escape, ih (htail (htail h))]
  | quoted depth c front hc ih =>
    rw [argumentFrom_quoted depth hc] at h
    simp only [List.cons_append, argumentFrom_quoted depth hc, ih (htail h)]
  | close depth c front hdepth => simp only [List.cons_append, argumentFrom_code, hdepth]
  | code depth depth' c front hdepth ih =>
    simp only [argumentFrom_code, hdepth] at h
    simp only [List.cons_append, argumentFrom_code, hdepth, ih (htail h)]

/-- An argument that is still open at the end of a text goes on as the state of the text says. -/
theorem argumentFrom_append_of_eq {s : LineState} {inside inside' : Bool} (hs : s.Agrees inside)
    {depth : Nat} {front : List Char} (hfront : (s.after front).Agrees inside')
    (h : argumentFrom inside depth front = front) :
    ∃ depth', ∀ rest,
      argumentFrom inside depth (front ++ rest) = front ++ argumentFrom inside' depth' rest := by
  induction inside, depth, front using argumentFrom_induction generalizing s with
  | nil inside depth =>
    obtain rfl := hs.eq hfront
    exact ⟨depth, fun rest => rfl⟩
  | escape_nil depth =>
    obtain rfl := agrees_true_iff.1 hs
    exact hfront.elim
  | escape depth d front ih =>
    obtain rfl := agrees_true_iff.1 hs
    rw [argumentFrom_escape] at h
    obtain ⟨depth', htail⟩ := ih hs hfront (by simpa using h)
    exact ⟨depth', fun rest => by simp only [List.cons_append, argumentFrom_escape, htail]⟩
  | quoted depth c front hc ih =>
    obtain rfl := agrees_true_iff.1 hs
    rw [argumentFrom_quoted depth hc] at h
    obtain ⟨depth', htail⟩ := ih (agrees_next_quoted hc) hfront (by simpa using h)
    exact ⟨depth', fun rest => by simp only [List.cons_append, argumentFrom_quoted depth hc, htail]⟩
  | close depth c front hdepth => simp [argumentFrom_code, hdepth] at h
  | code depth depth' c front hdepth ih =>
    have hne : s.next c ≠ comment := hfront.next_ne_comment
    simp only [argumentFrom_code, hdepth] at h
    obtain ⟨depth'', htail⟩ := ih (agrees_next_code (agrees_false_iff.1 hs) hne) hfront
      (by simpa using h)
    exact ⟨depth'', fun rest => by simp only [List.cons_append, argumentFrom_code, hdepth, htail]⟩

end Attribute

end SchemaAtlas

import Mathlib.Data.List.TakeWhile
import SchemaAtlas.Text.Summary

/-!
# Shortened texts

`Shortens` says what may stand for a text that has to fit into a width: the text itself, or a
beginning of it with the mark behind.  A beginning ends in front of the last space in the room that
the mark leaves, or at the end of the room if there is no such space, or it is empty if there is no
room (`KeepsFront`).

Main statement: `shortened` gives such a text, except where the empty text is too wide, because the
width is negative: the mark has its place then, although nothing is cut off (`shortens_shortened`,
`not_exists_front_of_empty`).
-/

namespace SchemaAtlas.Text

/-- What is kept of a text where there is room for `room` characters. -/
inductive KeepsFront (room : Int) (cs : List Char) : List Char → Prop
  /-- All the room is used, where no space stands behind the first character. -/
  | full {front : List Char} (hlength : (front.length : Int) = room) (hspace : ' ' ∉ front.tail) :
      KeepsFront room cs front
  | nothing (hroom : room ≤ 0) : KeepsFront room cs []
  /-- The text is cut in front of the last space in the room. -/
  | words {front : List Char} (hne : front ≠ []) (hlength : (front.length : Int) < room)
      (hspace : cs[front.length]? = some ' ')
      (hlast : ∀ i, front.length < i → (i : Int) < room → cs[i]? ≠ some ' ') :
      KeepsFront room cs front

/-- What stands for the text `s` where it may be `width` characters wide. -/
inductive Shortens (width : Int) (mark s : String) : String → Prop
  | whole (hfits : (s.length : Int) ≤ width) : Shortens width mark s s
  | cut {front : List Char} (hwide : width < s.length) (hfront : front <+: s.toList)
      (hproper : front ≠ s.toList)
      (hlength : ((String.ofList front ++ mark).length : Int) ≤ max width mark.length)
      (hkept : KeepsFront (width - mark.length) s.toList front) :
      Shortens width mark s (.ofList front ++ mark)

/-! ### The last space -/

theorem frontOfLastSpace?_eq_some {cs front : List Char} (h : frontOfLastSpace? cs = some front) :
    ∃ back, cs = front ++ ' ' :: back ∧ ' ' ∉ back := by
  unfold frontOfLastSpace? at h
  split at h
  · cases h
  · rename_i c rest hdrop
    obtain rfl := Option.some.inj h
    have hc : c = ' ' := by
      have hhead := List.head?_dropWhile_not (· != ' ') cs.reverse
      rw [hdrop] at hhead
      simpa using hhead
    refine ⟨(cs.reverse.takeWhile (· != ' ')).reverse, ?_, ?_⟩
    · calc cs = (cs.reverse.takeWhile (· != ' ') ++ cs.reverse.dropWhile (· != ' ')).reverse := by
            rw [List.takeWhile_append_dropWhile, List.reverse_reverse]
        _ = rest.reverse ++ ' ' :: (cs.reverse.takeWhile (· != ' ')).reverse := by
            rw [hdrop, hc]
            simp
    · intro hmem
      have hspace := List.mem_takeWhile_imp (List.mem_reverse.1 hmem)
      simp at hspace

/-- What stands in front of the last space of the room is kept. -/
theorem keepsFront_of_take {room : Nat} {cs front back : List Char} (hne : front ≠ [])
    (htake : cs.take room = front ++ ' ' :: back) (hback : ' ' ∉ back) :
    KeepsFront room cs front := by
  have hlength : front.length < room := by
    have hle : (cs.take room).length ≤ room := List.length_take_le room cs
    rw [htake, List.length_append, List.length_cons] at hle
    omega
  have hget : ∀ i < room, cs[i]? = (front ++ ' ' :: back)[i]? := by
    intro i hi
    rw [← htake, List.getElem?_take_of_lt hi]
  refine .words hne (by omega) ?_ fun i hi hroom => ?_
  · rw [hget _ hlength, List.getElem?_append_right (Nat.le_refl _), Nat.sub_self]
    rfl
  · rw [hget i (by omega), List.getElem?_append_right (by omega),
      show i - front.length = i - front.length - 1 + 1 by omega, List.getElem?_cons_succ]
    exact fun hspace => hback (List.mem_of_getElem? hspace)

/-! ### The beginning that is kept -/

variable {width : Int} {mark s : String}

/-- A beginning that is no longer than the room, which is less than the width, fits with the mark. -/
theorem shortens_of_keepsFront {front : List Char} (hwide : width < s.length)
    (hroom : 0 < width - mark.length) (hfront : front <+: s.toList)
    (hlength : (front.length : Int) ≤ width - mark.length)
    (hkept : KeepsFront (width - mark.length) s.toList front) :
    Shortens width mark s (.ofList front ++ mark) := by
  refine .cut hwide hfront ?_ ?_ hkept
  · rintro rfl
    rw [String.length_toList] at hlength
    omega
  · rw [String.length_append, String.length_ofList]
    omega

theorem shortens_of_room (hwide : ¬ (s.length : Int) ≤ width) (hroom : ¬ width - mark.length ≤ 0) :
    Shortens width mark s (shortened width mark s) := by
  obtain ⟨room, hcast⟩ : ∃ room : Nat, width - mark.length = room :=
    ⟨(width - mark.length).toNat, by omega⟩
  rw [hcast] at hroom
  have hwindow : (s.toList.take room).length = room := by
    rw [List.length_take_of_le]
    rw [String.length_toList]
    omega
  have hkept : ∀ front : List Char, front <+: s.toList → front.length ≤ room →
      KeepsFront room s.toList front → Shortens width mark s (.ofList front ++ mark) := by
    intro front hfront hlength hkept
    apply shortens_of_keepsFront (by omega) (by omega) hfront (by omega)
    rwa [hcast]
  have hfull : ' ' ∉ (s.toList.take room).tail →
      Shortens width mark s (.ofList (s.toList.take room) ++ mark) := by
    intro hspace
    apply hkept _ (List.take_prefix room _) (Nat.le_of_eq hwindow)
    exact .full (congrArg _ hwindow) hspace
  simp only [shortened, if_neg hwide, if_neg hroom, hcast, Int.toNat_natCast]
  cases hfound : frontOfLastSpace? (s.toList.take room) with
  | none =>
    exact hfull fun hmem => frontOfLastSpace?_eq_none_iff.1 hfound (List.mem_of_mem_tail hmem)
  | some front =>
    obtain ⟨back, htake, hback⟩ := frontOfLastSpace?_eq_some hfound
    cases front with
    | nil =>
      apply hfull
      rwa [htake]
    | cons c front =>
      apply hkept (c :: front)
      · exact (htake ▸ List.prefix_append _ _).trans (List.take_prefix room _)
      · rw [← hwindow, htake, List.length_append]
        exact Nat.le_add_right _ _
      · exact keepsFront_of_take (List.cons_ne_nil c front) htake hback

/-- A text is shortened to the width, except that the mark stands for an empty text that is too
wide. -/
theorem shortens_shortened (width : Int) (mark s : String) :
    if s = "" ∧ width < 0 then shortened width mark s = mark
    else Shortens width mark s (shortened width mark s) := by
  by_cases hfits : (s.length : Int) ≤ width
  · have hwhole : shortened width mark s = s := if_pos hfits
    have hwide : ¬ (s = "" ∧ width < 0) := by omega
    rw [if_neg hwide, hwhole]
    exact .whole hfits
  by_cases hroom : width - mark.length ≤ 0
  · have hmark : shortened width mark s = mark := by
      simp only [shortened, if_neg hfits, if_pos hroom]
    rw [hmark]
    split_ifs with hempty
    · rfl
    · have hproper : [] ≠ s.toList := by
        intro hnil
        have hs : s = "" := String.toList_eq_nil_iff.1 hnil.symm
        refine hempty ⟨hs, ?_⟩
        rw [hs] at hfits
        exact Int.not_le.1 hfits
      have hcut : Shortens width mark s (.ofList [] ++ mark) := by
        apply Shortens.cut (by omega) List.nil_prefix hproper _ (.nothing hroom)
        rw [String.ofList_nil, String.empty_append]
        omega
      rwa [String.ofList_nil, String.empty_append] at hcut
  · have hempty : ¬ (s = "" ∧ width < 0) := by omega
    rw [if_neg hempty]
    exact shortens_of_room hfits hroom

/-- The empty text does not fit into a negative width, and there is no beginning of it from which
something is cut off. -/
theorem not_exists_front_of_empty :
    ¬ ("".length : Int) ≤ -1 ∧ shortened (-1) "..." "" = "..." ∧
      ¬ ∃ front : List Char, front <+: "".toList ∧ front ≠ "".toList ∧
        shortened (-1) "..." "" = .ofList front ++ "..." := by
  refine ⟨by decide, rfl, ?_⟩
  rintro ⟨front, hfront, hproper, -⟩
  exact hproper (List.prefix_nil.1 hfront)

end SchemaAtlas.Text

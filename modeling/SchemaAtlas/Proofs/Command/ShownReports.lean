import SchemaAtlas.Command.Validate
import SchemaAtlas.Proofs.Command.Results
import SchemaAtlas.Proofs.Host.Showing

/-!
# What a report shows

A console may refuse texts in which brackets do not fit together, but what `validate` shows of a report
is fine on every console: issues are shown with brackets that mean nothing, and there are no brackets in
headings and verdicts besides the marks of one style.  So all of it is shown (`displays_presentReport`).
-/

namespace SchemaAtlas

open Text

/-! ### Items that no console refuses -/

/-- Every console shows the item. -/
def ConsoleItem.IsAccepted (item : ConsoleItem) : Prop :=
  ∀ markup : Markup, markup.fault? item = none

theorem isAccepted_verbatim (text : String) : (ConsoleItem.verbatim text).IsAccepted :=
  fun _ => rfl

theorem isAccepted_styled {style text rest : String} (hstyle : style ∈ styleNames)
    (htext : '[' ∉ text.toList) (hslash : '\\' ∉ text.toList) (hrest : '[' ∉ rest.toList) :
    (ConsoleItem.line (styled style text ++ rest)).IsAccepted := by
  intro markup
  have hshown := markup.isOk_styled style hstyle text rest htext hslash hrest
  rw [Markup.fault?_line]
  cases h : markup.shown (styled style text ++ rest) with
  | ok => rfl
  | error fault =>
    rw [h] at hshown
    cases hshown

theorem notMem_digits (n : Nat) : '[' ∉ Nat.toDigits 10 n := fun h =>
  absurd (Nat.isDigit_of_mem_toDigits (by decide) (by decide) h) (by decide)

theorem notMem_counted (n : Nat) {noun : String} (h : '[' ∉ noun.toList) :
    '[' ∉ (counted n noun).toList := by
  rw [counted, countedAs, show toString (n : Int) = toString n from rfl]
  split <;> simp [notMem_digits n, h]

theorem isAccepted_heading (severity : Severity) (n : Nat) :
    (ConsoleItem.line (severity.heading ++ " (" ++ toString n ++ ")")).IsAccepted := by
  have hrest : '[' ∉ (" (" ++ (toString n ++ ")")).toList := by
    simp [notMem_digits n]
  rw [String.append_assoc, String.append_assoc]
  cases severity <;> exact isAccepted_styled (by decide) (by decide) (by decide) hrest

/-- A message without brackets, in one of the styles that reports are marked with. -/
theorem isAccepted_statusLine {message : String} (h : '[' ∉ message.toList) {style : StatusStyle}
    (hstyle : style = .success ∨ style = .error ∨ style = .warning) :
    (ConsoleItem.line (statusLine message style 0)).IsAccepted := by
  have hrest : '[' ∉ (" " ++ message).toList := by
    simp [h]
  have hpadding : padding 0 = "" := rfl
  rw [statusLine, hpadding, String.empty_append]
  rcases hstyle with rfl | rfl | rfl <;>
    · rw [StatusStyle.mark, String.append_assoc]
      exact isAccepted_styled (by decide) (by decide) (by decide) hrest

theorem notMem_summary (report : Report) : '[' ∉ report.summary.toList := by
  have hname : ∀ severity : Severity, '[' ∉ severity.name.toList := by
    intro severity
    cases severity <;> decide
  unfold Report.summary countSummary
  split
  · decide
  · refine notMem_joined (by decide) fun part hpart => ?_
    obtain ⟨count, hcount, rfl⟩ := List.mem_map.1 hpart
    obtain ⟨⟨severity, n⟩, -, rfl⟩ := List.mem_map.1 (List.mem_of_mem_filter hcount)
    exact notMem_counted n (hname severity)

theorem isAccepted_of_mem_listing {report : Report} {item : ConsoleItem}
    (h : item ∈ report.listing) : item.IsAccepted := by
  have hissue : ∀ issue : Issue, ∀ item ∈ issue.listing, item.IsAccepted := by
    intro issue item hitem
    unfold Issue.listing at hitem
    rcases List.mem_cons.1 hitem with rfl | hitem
    · exact isAccepted_verbatim _
    · split at hitem
      · cases hitem
      · cases hitem
      · rw [List.mem_singleton.1 hitem]
        exact isAccepted_verbatim _
  obtain ⟨severity, -, hitem⟩ := List.mem_flatMap.1 h
  unfold Severity.listing at hitem
  split at hitem
  · cases hitem
  · rcases List.mem_append.1 hitem with hitem | hitem
    · rcases List.mem_cons.1 hitem with rfl | hitem
      · exact isAccepted_verbatim _
      · rw [List.mem_singleton.1 hitem]
        exact isAccepted_heading _ _
    · obtain ⟨issue, -, hitem⟩ := List.mem_flatMap.1 hitem
      exact hissue issue item hitem

namespace Command

open Machine

theorem isAccepted_verdict (report : Report) (threshold : Severity) (models : Nat) :
    (ConsoleItem.line (statusLine (verdict report threshold models).1
      (verdict report threshold models).2 0)).IsAccepted := by
  have hsummary := notMem_summary report
  unfold verdict
  split
  · exact isAccepted_statusLine (by simp [hsummary]) (by simp)
  · split
    · exact isAccepted_statusLine (by simp [notMem_digits models]) (by simp)
    · exact isAccepted_statusLine (by simp [hsummary]) (by simp)

/-! ### Programs that show items -/

/-- On every machine, the program comes to its end and adds the items to the console. -/
def Displays (program : Program (StateM Machine) Unit) (items : List ConsoleItem) : Prop :=
  ∀ machine, ∃ after, program.Gives machine () after ∧ after.console = machine.console ++ items

section

variable {program next : Program (StateM Machine) Unit} {items more : List ConsoleItem}

theorem Displays.bind (h : Displays program items) (h' : Displays next more) :
    Displays (program >>= fun _ => next) (items ++ more) := by
  intro machine
  obtain ⟨between, hprogram, hbetween⟩ := h machine
  obtain ⟨after, hnext, hafter⟩ := h' between
  refine ⟨after, gives_bind_iff.2 ⟨(), between, hprogram, hnext⟩, ?_⟩
  rw [hafter, hbetween, List.append_assoc]

/-- What the console does not refuse, a program goes on from. -/
theorem gives_orMarkupFault {shown : StateM Machine (Except MarkupFault Unit)}
    {machine after : Machine} (h : shown.run machine = (.ok (), after)) :
    (liftM shown >>= Program.orMarkupFault : Program (StateM Machine) Unit).Gives machine ()
      after := by
  refine gives_bind_iff.2 ⟨.ok (), after, ?_, gives_orHalt_iff.2 ⟨rfl, rfl⟩⟩
  have hlift := gives_lift shown machine
  rwa [h] at hlift

theorem displays_present {item : ConsoleItem} (h : item.IsAccepted) :
    Displays (Program.present item) [item] := fun machine =>
  ⟨machine.showing item, gives_orMarkupFault (run_present_of_accepted (h machine.markup)), rfl⟩

theorem displays_tell {message : String} {style : StatusStyle}
    (h : (ConsoleItem.line (statusLine message style 0)).IsAccepted) :
    Displays (Program.tell message style 0) [.line (statusLine message style 0)] := fun machine => by
  obtain ⟨after, hrun, hafter⟩ := exists_run_tell_of_accepted (h machine.markup)
  exact ⟨after, gives_orMarkupFault hrun, hafter.console_eq⟩

theorem displays_forM {shown : List ConsoleItem} (h : ∀ item ∈ shown, item.IsAccepted) :
    Displays (shown.forM Program.present) shown := by
  induction shown with
  | nil => exact fun machine => ⟨machine, rfl, (List.append_nil _).symm⟩
  | cons item shown ih =>
    obtain ⟨hitem, hshown⟩ := List.forall_mem_cons.1 h
    exact (displays_present hitem).bind (ih hshown)

end

/-- A report is shown as its listing and, below an empty line, its verdict. -/
theorem displays_presentReport (report : Report) (threshold : Severity) (models : Nat) :
    Displays (presentReport report threshold models) (report.listing ++ [.verbatim "",
      .line (statusLine (verdict report threshold models).1 (verdict report threshold models).2 0)]) := by
  unfold presentReport
  refine (displays_forM fun item => isAccepted_of_mem_listing).bind ?_
  refine (displays_present (isAccepted_verbatim "")).bind ?_
  exact displays_tell (isAccepted_verdict report threshold models)

end Command

end SchemaAtlas

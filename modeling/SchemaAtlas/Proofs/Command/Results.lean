import SchemaAtlas.Command.Form
import SchemaAtlas.Host.Memory
import SchemaAtlas.Proofs.Keyed

/-!
# Results of programs

On a given machine, a program comes to a result and leaves another machine, or it halts
(`Program.Gives`).  A command line that is read gives arguments whose values follow the rules of the
form (`objection?_of_gives_read`).
-/

namespace SchemaAtlas.Command

open Machine

variable {α β γ : Type}

/-! ### Results -/

/-- On the machine, the program comes to the result and leaves the other machine. -/
def Program.Gives (program : Program (StateM Machine) α) (machine : Machine) (a : α)
    (after : Machine) : Prop :=
  program.run.run machine = (.ok a, after)

section

variable {program : Program (StateM Machine) α} {next : α → Program (StateM Machine) β}
  {machine after : Machine}

theorem gives_pure_iff {a a' : α} :
    (pure a : Program (StateM Machine) α).Gives machine a' after ↔ a = a' ∧ machine = after := by
  show ((Except.ok a : Except Halt α), machine) = (Except.ok a', after) ↔ _
  rw [Prod.mk.injEq, Except.ok.injEq]

theorem gives_lift (program : StateM Machine α) (machine : Machine) :
    (liftM program : Program (StateM Machine) α).Gives machine (program.run machine).1
      (program.run machine).2 :=
  rfl

theorem not_gives_throw (halt : Halt) (a : α) :
    ¬ (throw halt : Program (StateM Machine) α).Gives machine a after :=
  nofun

theorem gives_orHalt_iff {halt : β → Halt} {result : Except β α} {a : α} :
    (Program.orHalt halt result : Program (StateM Machine) α).Gives machine a after ↔
      result = .ok a ∧ machine = after := by
  cases result with
  | ok a' =>
    rw [Except.ok.injEq]
    exact gives_pure_iff
  | error fault => exact iff_of_false (not_gives_throw _ _) nofun

/-- A program that goes on with a result comes to what is behind it. -/
theorem run_bind_of_gives {a : α} (h : program.Gives machine a after) :
    (program >>= next).run.run machine = (next a).run.run after := by
  rw [ExceptT.run_bind, StateT.run_bind, h]
  rfl

theorem gives_bind_iff {b : β} :
    (program >>= next).Gives machine b after ↔
      ∃ a between, program.Gives machine a between ∧ (next a).Gives between b after := by
  constructor
  · intro h
    rcases hrun : program.run.run machine with ⟨halt | a, between⟩
    · unfold Program.Gives at h
      rw [ExceptT.run_bind, StateT.run_bind, hrun] at h
      cases h
    · refine ⟨a, between, hrun, ?_⟩
      unfold Program.Gives at h
      rwa [run_bind_of_gives hrun] at h
  · rintro ⟨a, between, hprogram, hnext⟩
    unfold Program.Gives
    rwa [run_bind_of_gives hprogram]

/-- A run over a list is a run over each of its items. -/
theorem exists_gives_of_mem_forM {items : List γ} {step : γ → Program (StateM Machine) Unit}
    (h : (items.forM step).Gives machine () after) {item : γ} (hitem : item ∈ items) :
    ∃ before behind, (step item).Gives before () behind := by
  induction items generalizing machine with
  | nil => exact absurd hitem List.not_mem_nil
  | cons first rest ih =>
    obtain ⟨_, between, hfirst, hrest⟩ := gives_bind_iff.1 h
    rcases List.mem_cons.1 hitem with rfl | hitem
    · exact ⟨machine, between, hfirst⟩
    · exact ih hrest hitem

end

/-! ### Values on the command line -/

section

variable {m : Type → Type} [Monad m] [Host m]

/-- What is at the path that a value names; the empty value names none. -/
def kindAt? (value : String) : Program m (Option FileKind) :=
  match value with
  | "" => pure none
  | value => Host.kind? (m := m) (.ofText value)

theorem kindAt?_of_ne {value : String} (h : value ≠ "") :
    (kindAt? value : Program m (Option FileKind)) = Host.kind? (m := m) (.ofText value) := by
  unfold kindAt?
  split
  · exact absurd rfl h
  · rfl

theorem checkValue_eq (form : CommandForm) (rule : ValueRule) (place value : String) :
    (form.checkValue rule place value : Program m Unit) = kindAt? value >>= fun found =>
      match rule.objection? found value with
      | some reason => throw (.misused form.usage (.invalidValue place reason))
      | none => return := by
  unfold CommandForm.checkValue
  split
  case h_1 => rfl
  case h_2 hvalue => exact congrArg (· >>= _) (kindAt?_of_ne hvalue).symm

end

/-- A value to which there is no objection is one of the choices. -/
theorem mem_of_objection?_oneOf {choices : List String} {found : Option FileKind} {value : String}
    (h : (ValueRule.oneOf choices).objection? found value = none) : value ∈ choices := by
  cases hvalue : choices.contains value with
  | true => exact List.contains_iff_mem.1 hvalue
  | false =>
    simp only [ValueRule.objection?, hvalue] at h
    cases h

section

variable {form : CommandForm} {machine after : Machine}

theorem objection?_of_gives_checkValue {rule : ValueRule} {place value : String}
    (h : (form.checkValue rule place value : Program (StateM Machine) Unit).Gives machine () after) :
    ∃ found, rule.objection? found value = none := by
  rw [checkValue_eq] at h
  obtain ⟨found, between, -, hchecked⟩ := gives_bind_iff.1 h
  refine ⟨found, ?_⟩
  cases hobjection : rule.objection? found value with
  | none => rfl
  | some reason =>
    rw [hobjection] at hchecked
    exact absurd hchecked (not_gives_throw _ _)

/-- The value of an option follows the rule that the form has for it. -/
theorem objection?_of_gives_read {line : List String} {arguments : Arguments}
    (h : (form.read line : Program (StateM Machine) _).Gives machine (some arguments) after)
    {option : OptionSpelling} {name value : String} {rule : ValueRule}
    (hoption : (form.options.find? fun o => o.name == name) = some option)
    (hrule : option.kind = .value rule) (hvalue : arguments.value? name = some value) :
    ∃ found, rule.objection? found value = none := by
  unfold CommandForm.read at h
  obtain ⟨read, between, -, h⟩ := gives_bind_iff.1 h
  cases hhelp : read.isSet helpOption.name with
  | true =>
    simp only [hhelp] at h
    obtain ⟨hnone, -⟩ := gives_pure_iff.1 h
    cases hnone
  | false =>
    simp only [hhelp] at h
    obtain ⟨_, checked, hoptions, h⟩ := gives_bind_iff.1 h
    obtain ⟨_, _, -, h⟩ := gives_bind_iff.1 h
    obtain ⟨hread, -⟩ := gives_pure_iff.1 h
    cases hread
    have hmem : (name, OptionValue.text value) ∈ arguments.options := by
      unfold Arguments.value? at hvalue
      split at hvalue
      case h_1 s hget =>
        cases hvalue
        exact Keyed.mem_of_get?_eq_some hget
      case h_2 => cases hvalue
    obtain ⟨before, behind, hchecked⟩ := exists_gives_of_mem_forM hoptions hmem
    obtain ⟨spelling, _, _⟩ := option
    cases hrule
    unfold CommandForm.checkOption at hchecked
    simp only [hoption] at hchecked
    exact objection?_of_gives_checkValue hchecked

end

end SchemaAtlas.Command

import SchemaAtlas.Progress
import SchemaAtlas.Proofs.Host.Records

/-!
# Suppression of the terminal in nested steps

A run of steps comes to one point after another, each inside of some steps that suppress the terminal
(`Reaches`).  Whoever suppresses the terminal releases it in the end, so that after a run it is
suppressed only if it was before and no step has suppressed it (`isSuppressed_runAll`).

Main statement: the suppression is restored, and no record goes to the terminal inside of a step that
suppresses it, just if no such step is run within another one (`restoresSuppression_iff`).
-/

namespace SchemaAtlas

namespace Step

variable {α : Type}

/-! ### Steps around steps -/

/-- The steps that run within the step. -/
def body? : Step α → Option (List (Step α))
  | spinner _ _ body | task _ body | suppress body | attempt _ body => some body
  | _ => none

/-- The step suppresses the terminal of the machine while its body runs. -/
def suppresses (machine : Machine) : Step α → Bool
  | suppress _ => true
  | spinner .. => machine.isInteractive
  | _ => false

/-- What is done before the body runs; the result is what is left to do with the outcome of the body,
or the failure of a step whose body does not come to run. -/
def enter (perform : α → StateM Machine (Option StepFailure)) : Step α →
    StateM Machine (Except StepFailure (Option StepFailure → StateM Machine (Option StepFailure)))
  | spinner message indent _ => do
    if ← Host.isInteractive then
      Host.suppress true
      match ← Host.present (.live (padding indent ++ styled "cyan" message)) with
      | .ok () => return .ok fun result => do
          Host.suppress false
          return result
      | .error fault =>
        Host.suppress false
        return .error (.refused fault)
    else
      match ← Host.present (.line (padding indent ++ message ++ "...")) with
      | .ok () => return .ok pure
      | .error fault => return .error (.refused fault)
  | task name _ => do
    note .debug "task_start" [("task", .text name)]
    let start ← Host.clock
    return .ok (conclude name start)
  | suppress _ => do
    Host.suppress true
    return .ok fun result => do
      Host.suppress false
      return result
  | attempt caught _ => return .ok fun
    | some failure => perform (caught failure)
    | none => return none
  | _ => return .ok pure

/-- What holds of a step if it holds of all steps of its body holds of every step. -/
theorem induction_bodies {p : Step α → Prop}
    (h : ∀ step, (∀ body, step.body? = some body → ∀ inner ∈ body, p inner) → p step)
    (step : Step α) : p step := by
  have hleaf : ∀ {step : Step α}, step.body? = none → p step := fun hnone =>
    h _ fun body hbody => by simp [hnone] at hbody
  have hnode : ∀ {step : Step α} {body : List (Step α)}, step.body? = some body →
      (∀ inner ∈ body, p inner) → p step := fun hsome hbody =>
    h _ fun body hbody' => by simp_all
  exact @Step.rec α p (fun body => ∀ inner ∈ body, p inner)
    (fun _ _ _ => hleaf rfl) (fun _ => hleaf rfl) (fun _ _ _ => hnode rfl) (fun _ _ => hnode rfl)
    (fun _ => hnode rfl) (fun _ => hleaf rfl) (fun _ => hleaf rfl) (fun _ _ => hnode rfl)
    (by simp) (fun _ _ hstep hrest => by simpa using ⟨hstep, hrest⟩) step

variable {perform : α → StateM Machine (Option StepFailure)}

/-- A step with a body is entered, runs its body and deals with the outcome. -/
theorem run_of_body {step : Step α} {body : List (Step α)} (hbody : step.body? = some body) :
    run perform step = enter perform step >>= fun
      | .ok leave => runAll perform body >>= leave
      | .error failure => pure (some failure) := by
  cases step with
  | spinner message indent body =>
    obtain rfl := Option.some.inj hbody
    rw [run]
    funext machine
    show StateT.run _ machine = StateT.run _ machine
    rw [Machine.run_ifInteractive, StateT.run_bind, enter, Machine.run_ifInteractive]
    cases machine.isInteractive with
    | false =>
      simp only [Bool.false_eq_true, if_false, Machine.run_present_bind]
      cases machine.markup.fault? (.line (padding indent ++ message ++ "...")) <;> rfl
    | true =>
      simp only [if_true, Machine.run_suppress_bind, Machine.run_present_bind]
      cases (machine.suppressing true).markup.fault?
        (.live (padding indent ++ styled "cyan" message)) <;> rfl
  | task name body =>
    obtain rfl := Option.some.inj hbody
    rw [run]
    rfl
  | suppress body =>
    obtain rfl := Option.some.inj hbody
    rw [run]
    rfl
  | attempt caught body =>
    obtain rfl := Option.some.inj hbody
    rw [run]
    rfl
  | _ => simp [body?] at hbody

/-- On the machine, the step comes to run its body.  The body runs on the machine `entered`, and what is
done about its outcome is `leave`. -/
structure Enters (perform : α → StateM Machine (Option StepFailure)) (step : Step α)
    (machine : Machine) (body : List (Step α))
    (leave : Option StepFailure → StateM Machine (Option StepFailure)) (entered : Machine) :
    Prop where
  body_eq : step.body? = some body
  run_eq : (enter perform step).run machine = (.ok leave, entered)

section

variable {step : Step α} {body : List (Step α)} {machine entered : Machine}
  {leave : Option StepFailure → StateM Machine (Option StepFailure)}

theorem Enters.run_run (h : Enters perform step machine body leave entered) :
    (run perform step).run machine =
      let ended := (runAll perform body).run entered
      (leave ended.1).run ended.2 := by
  rw [run_of_body h.body_eq, StateT.run_bind, h.run_eq]
  rfl

theorem run_run_of_not_enters {failure : StepFailure} (hbody : step.body? = some body)
    (h : (enter perform step).run machine = (.error failure, entered)) :
    (run perform step).run machine = (some failure, entered) := by
  rw [run_of_body hbody, StateT.run_bind, h]
  rfl

end

end Step

namespace Machine.KeepsSuppression

open Step

theorem note (level : LogLevel) (event : String) (fields : Keyed Data) :
    KeepsSuppression (Step.note level event fields) :=
  record _

theorem tell (message : String) (style : StatusStyle) (indent : Int) :
    KeepsSuppression (Step.tell message style indent) := by
  refine (present _).bind fun shown => ?_
  cases shown with
  | error fault => exact pure _
  | ok => exact (note _ _ _).bind fun _ => pure _

theorem concludeFailed (name : String) (start : Binary64) (failure : StepFailure) :
    KeepsSuppression (Step.concludeFailed name start failure) := by
  refine clock.bind fun now => (tell _ _ _).bind fun shown => ?_
  cases shown with
  | error fault => exact pure _
  | ok => exact (note _ _ _).bind fun _ => pure _

theorem conclude (name : String) (start : Binary64) (result : Option StepFailure) :
    KeepsSuppression (Step.conclude name start result) := by
  cases result with
  | none =>
    refine clock.bind fun now => (tell _ _ _).bind fun shown => ?_
    cases shown with
    | error fault => exact concludeFailed _ _ _
    | ok => exact (note _ _ _).bind fun _ => pure _
  | some failure => exact concludeFailed _ _ _

end Machine.KeepsSuppression

namespace Step

variable {α : Type} {perform : α → StateM Machine (Option StepFailure)}

open Machine (KeepsSuppression)

/-! ### One step -/

/-- A step without a body leaves the suppression as it is. -/
theorem keepsSuppression_of_leaf (hperform : ∀ action, KeepsSuppression (perform action))
    {step : Step α} (hbody : step.body? = none) : KeepsSuppression (run perform step) := by
  cases step with
  | status message style indent =>
    rw [run]
    exact (KeepsSuppression.tell _ _ _).bind fun _ => .pure _
  | present item =>
    rw [run]
    exact (KeepsSuppression.present _).bind fun _ => .pure _
  | fail message =>
    rw [run]
    exact .pure _
  | act action =>
    rw [run]
    exact hperform action
  | _ => simp [body?] at hbody

section

variable {step : Step α} {body : List (Step α)} {machine entered : Machine}
  {leave : Option StepFailure → StateM Machine (Option StepFailure)}

/-- A spinner that turns suppresses the terminal before it is shown, and releases it if it is not. -/
theorem run_enter_spinner (message : String) (indent : Int) (body : List (Step α))
    (machine : Machine) : (enter perform (.spinner message indent body)).run machine =
      if machine.isInteractive then
        match machine.markup.fault? (.live (padding indent ++ styled "cyan" message)) with
        | some fault => (.error (.refused fault), machine.suppressing false)
        | none => (.ok fun result => do Host.suppress false; return result,
            (machine.suppressing true).showing (.live (padding indent ++ styled "cyan" message)))
      else
        match machine.markup.fault? (.line (padding indent ++ message ++ "...")) with
        | some fault => (.error (.refused fault), machine)
        | none => (.ok pure, machine.showing (.line (padding indent ++ message ++ "..."))) := by
  rw [enter, Machine.run_ifInteractive]
  cases machine.isInteractive with
  | false =>
    rw [if_neg Bool.false_ne_true, if_neg Bool.false_ne_true, Machine.run_present_bind]
    cases machine.markup.fault? (.line (padding indent ++ message ++ "...")) <;> rfl
  | true =>
    rw [if_pos rfl, if_pos rfl, Machine.run_suppress_bind, Machine.run_present_bind]
    show (match machine.markup.fault? (.live (padding indent ++ styled "cyan" message)) with
      | some fault => _
      | none => _) = _
    cases machine.markup.fault? (.live (padding indent ++ styled "cyan" message)) <;> rfl

/-- A spinner whose body comes to run turns and suppresses the terminal, or is a line that changes
nothing else. -/
theorem enters_spinner_cases {message : String} {indent : Int} {inner : List (Step α)}
    (h : Enters perform (.spinner message indent inner) machine body leave entered) :
    (machine.isInteractive ∧ leave = (fun result => do Host.suppress false; return result) ∧
      entered = (machine.suppressing true).showing (.live (padding indent ++ styled "cyan" message))) ∨
    (machine.isInteractive = false ∧ leave = pure ∧
      entered = machine.showing (.line (padding indent ++ message ++ "..."))) := by
  have hrun := h.run_eq
  rw [run_enter_spinner] at hrun
  cases hinteractive : machine.isInteractive with
  | true =>
    rw [if_pos hinteractive] at hrun
    split at hrun
    · cases hrun
    · cases hrun
      exact .inl ⟨rfl, rfl, rfl⟩
  | false =>
    rw [if_neg (by simp [hinteractive])] at hrun
    split at hrun
    · cases hrun
    · cases hrun
      exact .inr ⟨rfl, rfl, rfl⟩

/-- The terminal is suppressed when a body comes to run, if it was before or the step suppresses it. -/
theorem Enters.isSuppressed_eq (h : Enters perform step machine body leave entered) :
    entered.isSuppressed = (step.suppresses machine || machine.isSuppressed) := by
  have hrun := h.run_eq
  cases step with
  | spinner message indent body =>
    obtain ⟨hinteractive, -, rfl⟩ | ⟨hinteractive, -, rfl⟩ := enters_spinner_cases h
    · rw [suppresses, hinteractive]
      rfl
    · rw [suppresses, hinteractive]
      rfl
  | task name body =>
    have hkeeps : KeepsSuppression (note (m := StateM Machine) .debug "task_start"
        [("task", .text name)] >>= fun _ => Host.clock) :=
      (KeepsSuppression.note _ _ _).bind fun _ => .clock
    cases hrun
    exact hkeeps machine
  | _ =>
    cases hrun
    rfl

/-- A step whose body does not come to run releases the terminal, if it suppresses it at all. -/
theorem isSuppressed_of_not_enters {failure : StepFailure}
    (h : (enter perform step).run machine = (.error failure, entered)) :
    entered.isSuppressed = (!step.suppresses machine && machine.isSuppressed) := by
  cases step with
  | spinner message indent body =>
    rw [run_enter_spinner] at h
    rw [suppresses]
    cases hinteractive : machine.isInteractive with
    | true =>
      rw [if_pos hinteractive] at h
      split at h
      · cases h
        rfl
      · cases h
    | false =>
      rw [if_neg (by simp [hinteractive])] at h
      split at h
      · cases h
        rfl
      · cases h
  | _ => cases h

/-- A step that suppresses the terminal releases it in the end, whatever was before. -/
theorem Enters.isSuppressed_leave (hperform : ∀ action, KeepsSuppression (perform action))
    (h : Enters perform step machine body leave entered) (result : Option StepFailure)
    (next : Machine) :
    ((leave result).run next).2.isSuppressed = (!step.suppresses machine && next.isSuppressed) := by
  have hrun := h.run_eq
  cases step with
  | spinner message indent body =>
    obtain ⟨hinteractive, rfl, -⟩ | ⟨hinteractive, rfl, -⟩ := enters_spinner_cases h
    · rw [suppresses, hinteractive]
      rfl
    · rw [suppresses, hinteractive]
      rfl
  | task name body =>
    cases hrun
    exact KeepsSuppression.conclude name _ result next
  | attempt caught body =>
    cases hrun
    cases result with
    | none => rfl
    | some failure => exact hperform (caught failure) next
  | _ =>
    cases hrun
    rfl

end

/-! ### All that a run comes to -/

/-- The run of the steps on the machine comes to a point where some steps `remain` on the machine
`now`, inside of `depth` steps that suppress the terminal.  Behind a step that fails nothing remains,
but what is around it still has to be left. -/
inductive Reaches (perform : α → StateM Machine (Option StepFailure)) :
    List (Step α) → Machine → Nat → List (Step α) → Machine → Prop
  | here (steps : List (Step α)) (machine : Machine) : Reaches perform steps machine 0 steps machine
  | after {step : Step α} {rest remain : List (Step α)} {machine now : Machine} {depth : Nat}
      (hrest : Reaches perform (if ((run perform step).run machine).1.isNone then rest else [])
        ((run perform step).run machine).2 depth remain now) :
      Reaches perform (step :: rest) machine depth remain now
  | inside {step : Step α} {rest body remain : List (Step α)} {machine entered now : Machine}
      {leave : Option StepFailure → StateM Machine (Option StepFailure)} {depth : Nat}
      (henters : Enters perform step machine body leave entered)
      (hinside : Reaches perform body entered depth remain now) :
      Reaches perform (step :: rest) machine
        (if step.suppresses machine then depth + 1 else depth) remain now

/-- The run of the steps comes to a step that suppresses the terminal, inside of `depth` others. -/
def ReachesBlock (perform : α → StateM Machine (Option StepFailure)) (steps : List (Step α))
    (machine : Machine) (depth : Nat) (block : Step α) (now : Machine) : Prop :=
  block.suppresses now ∧ ∃ rest, Reaches perform steps machine depth (block :: rest) now

/-- Some step that suppresses the terminal is reached. -/
def Suppresses (perform : α → StateM Machine (Option StepFailure)) (steps : List (Step α))
    (machine : Machine) : Prop :=
  ∃ depth block now, ReachesBlock perform steps machine depth block now

theorem not_suppresses_nil (machine : Machine) : ¬ Suppresses perform [] machine := by
  rintro ⟨depth, block, now, -, rest, hreach⟩
  cases hreach

theorem suppresses_cons_iff {step : Step α} {rest : List (Step α)} {machine : Machine} :
    Suppresses perform (step :: rest) machine ↔
      step.suppresses machine ∨
        (∃ body leave entered, Enters perform step machine body leave entered ∧
          Suppresses perform body entered) ∨
        Suppresses perform (if ((run perform step).run machine).1.isNone then rest else [])
          ((run perform step).run machine).2 := by
  constructor
  · rintro ⟨depth, block, now, hblock, remain, hreach⟩
    cases hreach with
    | here => exact .inl hblock
    | after hrest => exact .inr (.inr ⟨_, _, _, hblock, _, hrest⟩)
    | inside henters hinside => exact .inr (.inl ⟨_, _, _, henters, _, _, _, hblock, _, hinside⟩)
  · rintro (hstep | ⟨_, _, _, henters, _, _, _, hblock, _, hinside⟩ | ⟨_, _, _, hblock, _, hrest⟩)
    · exact ⟨_, _, _, hstep, _, .here _ _⟩
    · exact ⟨_, _, _, hblock, _, .inside henters hinside⟩
    · exact ⟨_, _, _, hblock, _, .after hrest⟩

/-- What a step does to the suppression: it is what it has been, unless a step that suppresses the
terminal is reached; then the terminal is released. -/
def SetsSuppression (perform : α → StateM Machine (Option StepFailure)) (step : Step α) : Prop :=
  ∀ machine, ((run perform step).run machine).2.isSuppressed ↔
    machine.isSuppressed ∧ ¬ Suppresses perform [step] machine

theorem run_runAll_cons (step : Step α) (rest : List (Step α)) (machine : Machine) :
    (runAll perform (step :: rest)).run machine =
      match (run perform step).run machine with
      | (none, next) => (runAll perform rest).run next
      | (some message, next) => (some message, next) := by
  rw [runAll, StateT.run_bind]
  obtain ⟨result, next⟩ := (run perform step).run machine
  cases result <;> rfl

/-- What a step comes to by itself, without the steps behind it. -/
theorem suppresses_singleton_iff {step : Step α} {machine : Machine} :
    Suppresses perform [step] machine ↔ step.suppresses machine ∨
      ∃ body leave entered, Enters perform step machine body leave entered ∧
        Suppresses perform body entered := by
  simp [suppresses_cons_iff, not_suppresses_nil]

/-- A step comes to run one body. -/
theorem Enters.exists_suppresses_iff {step : Step α} {machine entered : Machine}
    {body : List (Step α)} {leave : Option StepFailure → StateM Machine (Option StepFailure)}
    (h : Enters perform step machine body leave entered) :
    (∃ body leave entered, Enters perform step machine body leave entered ∧
      Suppresses perform body entered) ↔ Suppresses perform body entered := by
  refine ⟨?_, fun hsuppresses => ⟨_, _, _, h, hsuppresses⟩⟩
  rintro ⟨body', leave', entered', h', hsuppresses⟩
  obtain rfl : body' = body := Option.some.inj (h'.body_eq.symm.trans h.body_eq)
  obtain ⟨-, rfl⟩ := Prod.mk.inj (h'.run_eq.symm.trans h.run_eq)
  exact hsuppresses

theorem isSuppressed_runAll_of_forall {steps : List (Step α)}
    (hsteps : ∀ step ∈ steps, SetsSuppression perform step) (machine : Machine) :
    ((runAll perform steps).run machine).2.isSuppressed ↔
      machine.isSuppressed ∧ ¬ Suppresses perform steps machine := by
  induction steps generalizing machine with
  | nil =>
    rw [runAll]
    exact (and_iff_left (not_suppresses_nil machine)).symm
  | cons step rest ih =>
    obtain ⟨hstep, hrest⟩ := List.forall_mem_cons.1 hsteps
    specialize hstep machine
    rw [suppresses_singleton_iff] at hstep
    rw [suppresses_cons_iff, run_runAll_cons]
    generalize (run perform step).run machine = outcome at hstep ⊢
    obtain ⟨_ | message, next⟩ := outcome
    · simp only [Option.isNone_none, if_true, ih hrest next, hstep, not_or, and_assoc]
    · simpa [not_suppresses_nil] using hstep

theorem setsSuppression (hperform : ∀ action, KeepsSuppression (perform action)) (step : Step α) :
    SetsSuppression perform step := by
  induction step using induction_bodies with
  | h step ih =>
    intro machine
    rw [suppresses_singleton_iff]
    cases hbody : step.body? with
    | none =>
      have hsuppresses : step.suppresses machine = false := by
        cases step <;> simp_all [body?, suppresses]
      have hnone : ¬ ∃ body leave entered, Enters perform step machine body leave entered ∧
          Suppresses perform body entered := by
        rintro ⟨body, leave, entered, henters, -⟩
        exact nomatch hbody.symm.trans henters.body_eq
      rw [keepsSuppression_of_leaf hperform hbody machine]
      simp [hsuppresses, hnone]
    | some body =>
      rcases hrun : (enter perform step).run machine with ⟨failure | leave, entered⟩
      · have hnone : ¬ ∃ body leave entered, Enters perform step machine body leave entered ∧
            Suppresses perform body entered := by
          rintro ⟨body, leave, entered, henters, -⟩
          exact nomatch hrun.symm.trans henters.run_eq
        rw [run_run_of_not_enters hbody hrun, isSuppressed_of_not_enters hrun]
        simp [hnone, and_comm]
      · have henters : Enters perform step machine body leave entered := ⟨hbody, hrun⟩
        rw [henters.exists_suppresses_iff, henters.run_run, henters.isSuppressed_leave hperform,
          Bool.and_eq_true, isSuppressed_runAll_of_forall (ih body hbody), henters.isSuppressed_eq]
        cases step.suppresses machine <;> simp

/-- After a run, the terminal is suppressed if it was before and no step has suppressed it. -/
theorem isSuppressed_runAll (hperform : ∀ action, KeepsSuppression (perform action))
    (steps : List (Step α)) (machine : Machine) :
    ((runAll perform steps).run machine).2.isSuppressed ↔
      machine.isSuppressed ∧ ¬ Suppresses perform steps machine :=
  isSuppressed_runAll_of_forall (fun step _ => setsSuppression hperform step) machine

/-! ### Nested suppression -/

/-- Whoever suppresses the terminal leaves it as it was before, so that it is suppressed for as long
as some step suppresses it, and no record goes there. -/
structure RestoresSuppression (perform : α → StateM Machine (Option StepFailure))
    (steps : List (Step α)) (machine : Machine) : Prop where
  restored : ∀ depth block now, ReachesBlock perform steps machine depth block now →
    ((run perform block).run now).2.isSuppressed = now.isSuppressed
  suppressed : ∀ depth remain now, Reaches perform steps machine depth remain now → 0 < depth →
    now.isSuppressed
  dropped : ∀ depth remain now, Reaches perform steps machine depth remain now → 0 < depth →
    ∀ time record, ∀ d ∈ now.log.deliveries time record, ¬ d.destination.isTerminal

variable {steps : List (Step α)} {machine : Machine}

/-- Outside of the steps that suppress it, a terminal that was not suppressed is not. -/
theorem Reaches.isSuppressed_eq_false (hperform : ∀ action, KeepsSuppression (perform action))
    {depth : Nat} {remain : List (Step α)} {now : Machine}
    (h : Reaches perform steps machine depth remain now) (hdepth : depth = 0)
    (hmachine : machine.isSuppressed = false) : now.isSuppressed = false := by
  induction h with
  | here => exact hmachine
  | @after step rest remain machine now depth hrest ih =>
    have hnext : ((run perform step).run machine).2.isSuppressed = false := by
      rw [Bool.eq_false_iff]
      intro hnext
      simpa [hmachine] using ((setsSuppression hperform step machine).1 hnext).1
    exact ih hdepth hnext
  | @inside step rest body remain machine entered now leave depth henters hinside ih =>
    cases hstep : step.suppresses machine with
    | true => simp [hstep] at hdepth
    | false =>
      rw [hstep] at hdepth
      refine ih hdepth ?_
      rw [henters.isSuppressed_eq, hstep, hmachine]
      rfl

/-- Where nothing suppresses the terminal, a run leaves the suppression as it is. -/
theorem Reaches.isSuppressed_eq (hperform : ∀ action, KeepsSuppression (perform action))
    {depth : Nat} {remain : List (Step α)} {now : Machine}
    (h : Reaches perform steps machine depth remain now)
    (hfree : ¬ Suppresses perform steps machine) : now.isSuppressed = machine.isSuppressed := by
  induction h with
  | here => rfl
  | @after step rest remain machine now depth hrest ih =>
    rw [suppresses_cons_iff, ← or_assoc, not_or, ← suppresses_singleton_iff] at hfree
    have hnext : ((run perform step).run machine).2.isSuppressed = machine.isSuppressed := by
      rw [Bool.eq_iff_iff, setsSuppression hperform step machine]
      exact and_iff_left hfree.1
    rw [ih hfree.2, hnext]
  | @inside step rest body remain machine entered now leave depth henters hinside ih =>
    rw [suppresses_cons_iff, not_or, not_or, Bool.not_eq_true] at hfree
    obtain ⟨hstep, hbodyFree, -⟩ := hfree
    rw [ih fun h => hbodyFree ⟨_, _, _, henters, h⟩, henters.isSuppressed_eq, hstep, Bool.false_or]

/-- If steps that suppress the terminal are not within each other, it is suppressed within each. -/
theorem Reaches.isSuppressed (hperform : ∀ action, KeepsSuppression (perform action))
    {depth : Nat} {remain : List (Step α)} {now : Machine}
    (h : Reaches perform steps machine depth remain now) (hdepth : 0 < depth)
    (hflat : ∀ depth block now, ReachesBlock perform steps machine depth block now → depth = 0) :
    now.isSuppressed := by
  induction h with
  | here => exact absurd hdepth (Nat.lt_irrefl 0)
  | @after step rest remain machine now depth hrest ih =>
    refine ih hdepth fun depth block now ⟨hblock, remain, h⟩ => ?_
    exact hflat depth block now ⟨hblock, remain, .after h⟩
  | @inside step rest body remain machine entered now leave depth henters hinside ih =>
    have hwithin : ∀ depth block now, ReachesBlock perform body entered depth block now →
        (if step.suppresses machine then depth + 1 else depth) = 0 :=
      fun depth block now ⟨hblock, remain, h⟩ =>
        hflat _ block now ⟨hblock, remain, .inside henters h⟩
    cases hstep : step.suppresses machine with
    | true =>
      have hfree : ¬ Suppresses perform body entered := by
        rintro ⟨depth, block, now, h⟩
        simpa [hstep] using hwithin depth block now h
      rw [hinside.isSuppressed_eq hperform hfree, henters.isSuppressed_eq, hstep, Bool.true_or]
    | false =>
      simp only [hstep, Bool.false_eq_true, if_false] at hdepth hwithin
      exact ih hdepth hwithin

/-- A step that suppresses the terminal releases it, also if it was suppressed before. -/
theorem isSuppressed_run_of_suppresses (hperform : ∀ action, KeepsSuppression (perform action))
    {block : Step α} {now : Machine} (hblock : block.suppresses now) :
    ((run perform block).run now).2.isSuppressed = false := by
  rw [Bool.eq_false_iff, Ne, setsSuppression hperform block now, suppresses_singleton_iff]
  exact fun h => h.2 (.inl hblock)

/-- While the terminal is suppressed, no record goes there. -/
theorem not_isTerminal_of_isSuppressed {now : Machine} (h : now.isSuppressed) (time : String)
    (record : LogRecord) : ∀ d ∈ now.log.deliveries time record, ¬ d.destination.isTerminal := by
  intro d hd hterminal
  unfold LogState.deliveries at hd
  split at hd
  · cases hd
  · obtain ⟨output, houtput, rfl⟩ := List.mem_map.1 hd
    have haccepts := (List.mem_filter.1 houtput).2
    simp_all [LogState.accepts, Machine.isSuppressed]

/-- On a machine whose terminal is not suppressed, a run restores the suppression just if it comes to
no step that suppresses the terminal within another one. -/
theorem restoresSuppression_iff (hperform : ∀ action, KeepsSuppression (perform action))
    (hmachine : machine.isSuppressed = false) :
    RestoresSuppression perform steps machine ↔
      ∀ depth block now, ReachesBlock perform steps machine depth block now → depth = 0 := by
  constructor
  · rintro h depth block now ⟨hblock, remain, hreach⟩
    refine Nat.eq_zero_of_not_pos fun hdepth => ?_
    have hbefore := h.suppressed depth _ now hreach hdepth
    have hafter := h.restored depth block now ⟨hblock, remain, hreach⟩
    rw [isSuppressed_run_of_suppresses hperform hblock, hbefore] at hafter
    cases hafter
  · intro hflat
    have hsuppressed : ∀ depth remain now, Reaches perform steps machine depth remain now →
        0 < depth → now.isSuppressed :=
      fun _ _ _ hreach hdepth => hreach.isSuppressed hperform hdepth hflat
    constructor
    · rintro depth block now ⟨hblock, remain, hreach⟩
      have hdepth := hflat depth block now ⟨hblock, remain, hreach⟩
      rw [isSuppressed_run_of_suppresses hperform hblock,
        hreach.isSuppressed_eq_false hperform hdepth hmachine]
    · exact hsuppressed
    · exact fun depth remain now hreach hdepth =>
        not_isTerminal_of_isSuppressed (hsuppressed depth remain now hreach hdepth)

/-- The action that does nothing. -/
def idle (_ : Unit) : StateM Machine (Option StepFailure) :=
  pure none

/-- A block that is left with a failure, in no other block. -/
theorem restoresSuppression_of_flat :
    (∀ action, KeepsSuppression (idle action)) ∧ ({} : Machine).isSuppressed = false ∧
      RestoresSuppression idle [.suppress [.fail "no schema"]] {} := by
  have hidle : ∀ action, KeepsSuppression (idle action) := fun _ => .pure _
  refine ⟨hidle, rfl, (restoresSuppression_iff hidle rfl).2 ?_⟩
  rintro depth block now ⟨hblock, remain, hreach⟩
  cases hreach with
  | here => rfl
  | after hrest =>
    rw [ite_self] at hrest
    cases hrest
  | inside henters hinside =>
    cases henters.body_eq
    cases hinside with
    | here => cases hblock
    | after hrest =>
      rw [ite_self] at hrest
      cases hrest
    | inside henters => cases henters.body_eq

/-- A block within a block releases the terminal while the outer one has still to run. -/
theorem not_restoresSuppression_of_nested :
    ¬ RestoresSuppression idle [.suppress [.suppress []]] {} := by
  intro h
  have hinner := h.restored 1 (.suppress []) _ ⟨rfl, [], .inside ⟨rfl, rfl⟩ (.here _ _)⟩
  rw [run, runAll] at hinner
  cases hinner

end Step

end SchemaAtlas

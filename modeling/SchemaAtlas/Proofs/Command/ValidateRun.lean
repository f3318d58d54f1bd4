import SchemaAtlas.Command.Execution
import SchemaAtlas.Proofs.Command.QuietPrograms
import SchemaAtlas.Proofs.Command.ShownReports
import SchemaAtlas.Proofs.Lint.ReportCounts

/-!
# Runs of `validate`

A run of `validate` that comes to a report has read its line, opened the project and run the rules
(`ReportRun`).  The threshold is the one on the line or else the one of the settings, and the exit
status says whether the report fails it.  All that the run shows, unless JSON is asked for, is the
listing of the report and one line with the verdict.

Main statement: reports are coherent, and runs of `validate` that come to a report end in this way
(`validate_reports`).
-/

namespace SchemaAtlas.Command

open Machine

/-- A run of `validate` on a machine, up to its report. -/
structure ReportRun (line : List String) (machine : Machine) where
  /-- What stands behind the name of the command. -/
  rest : List String
  verbose : Bool
  arguments : Arguments
  /-- The machine when the line has been read. -/
  informed : Machine
  project : Project
  /-- The machine when the project has been opened. -/
  opened : Machine
  report : Report
  asked : Request.ofLine line = .run .validate rest verbose
  read : (validateForm.read rest).Gives ((startLog verbose : StateM Machine Unit).run machine).2
    (some arguments) informed
  opens : (openProject verbose (arguments.value? schemaOption.name)).Gives informed project opened
  found : Lint.validate project.settings.lint project.schema = .ok report

/-- What `validate` does up to its report, with the parts of the run. -/
def reporting (rest : List String) (verbose : Bool) :
    Program (StateM Machine) (Option Arguments × Project × Report) := do
  let arguments ← validateForm.read rest
  let project ← openProject verbose (arguments.bind fun a => a.value? schemaOption.name)
  let report ← Program.orPatternFault (Lint.validate project.settings.lint project.schema)
  return (arguments, project, report)

namespace ReportRun

variable {line : List String} {machine : Machine} (run : ReportRun line machine)

/-- If `validate` comes to a report, it has run with these parts. -/
theorem exists_of_gives_reporting {rest : List String} {verbose : Bool} {arguments : Arguments}
    {project : Project} {report : Report} {after : Machine}
    (hasked : Request.ofLine line = .run .validate rest verbose)
    (h : (reporting rest verbose).Gives ((startLog verbose : StateM Machine Unit).run machine).2
      (some arguments, project, report) after) :
    ∃ run : ReportRun line machine,
      run.arguments = arguments ∧ run.project = project ∧ run.report = report := by
  obtain ⟨_, informed, hread, h⟩ := gives_bind_iff.1 h
  obtain ⟨_, opened, hopens, h⟩ := gives_bind_iff.1 h
  obtain ⟨_, _, hreport, h⟩ := gives_bind_iff.1 h
  obtain ⟨hparts, -⟩ := gives_pure_iff.1 h
  cases hparts
  obtain ⟨hfound, -⟩ := gives_orHalt_iff.1 hreport
  exact ⟨⟨rest, verbose, arguments, informed, project, opened, report, hasked, hread, hopens,
    hfound⟩, rfl, rfl, rfl⟩

/-- The threshold is the last one on the line, or the one of the settings if the line has none. -/
structure HasThreshold (threshold : Severity) : Prop where
  given : ∀ name, run.arguments.value? "fail-on" = some name → threshold.name = name
  configured : run.arguments.value? "fail-on" = none →
    threshold = run.project.settings.lint.failOn

/-- The line that says what the report comes to. -/
def verdictLine (threshold : Severity) : String :=
  let (message, style) := verdict run.report threshold run.project.schema.models.length
  statusLine message style 0

/-! ### The threshold -/

/-- A threshold that is accepted on the line is the name of a severity. -/
theorem exists_severity {name : String} (h : run.arguments.value? "fail-on" = some name) :
    ∃ severity : Severity, severity.name = name := by
  obtain ⟨found, hobjection⟩ := objection?_of_gives_read run.read rfl rfl h
  obtain ⟨severity, -, hname⟩ := List.mem_map.1 (mem_of_objection?_oneOf hobjection)
  exact ⟨severity, hname⟩

theorem hasThreshold :
    run.HasThreshold ((ValidateOptions.ofArguments run.arguments).threshold.getD
      run.project.settings.lint.failOn) := by
  unfold ValidateOptions.ofArguments
  refine ⟨fun name hname => ?_, fun hnone => ?_⟩
  · obtain ⟨severity, rfl⟩ := run.exists_severity hname
    rw [hname, Option.bind_some, severity.ofName?_name, Option.getD_some]
  · rw [hnone, Option.bind_none, Option.getD_none]

end ReportRun

/-! ### The conclusion of a run -/

/-- The conclusion tells the exit status and shows the report, unless JSON is asked for. -/
theorem exists_gives_concludeReport (report : Report) (threshold : Severity) (asJson : Bool)
    (models : Nat) (machine : Machine) :
    ∃ last, (concludeReport report threshold asJson models).Gives machine
      (exitStatus report threshold) last ∧ last.console = machine.console ++
        if asJson then [] else report.listing ++ [.verbatim "", .line (statusLine
          (verdict report threshold models).1 (verdict report threshold models).2 0)] := by
  cases asJson with
  | true =>
    refine ⟨_, gives_bind_iff.2 ⟨(), _, gives_lift (printJson report.toData) machine, rfl⟩, ?_⟩
    exact isQuiet_print _ machine
  | false =>
    obtain ⟨last, hpresent, hconsole⟩ := displays_presentReport report threshold models machine
    exact ⟨last, gives_bind_iff.2 ⟨(), last, hpresent, rfl⟩, hconsole⟩

/-! ### The whole run -/

theorem isQuiet_startLog (verbose : Bool) : IsQuiet (startLog verbose : StateM Machine Unit) := by
  refine (isQuiet_query Machine.run).bind fun run => ?_
  exact (isQuiet_query Machine.log).bind fun state => isQuiet_setLogState _

theorem run_execute {line : List String} {machine after : Machine} {status : Nat}
    (h : (Request.ofLine line).perform.Gives machine status after) :
    (execute line : StateM Machine Ending).run machine = (.finished status, after) := by
  have hline : line.isEmpty = false := by
    cases line with
    | nil => exact absurd h (not_gives_throw _ _)
    | cons => rfl
  unfold execute
  rw [hline]
  show ((Request.ofLine line).perform.run >>= _ : StateM Machine Ending).run machine = _
  rw [StateT.run_bind, h]
  rfl

namespace ReportRun

variable {line : List String} {machine : Machine} (run : ReportRun line machine)

/-- Up to the report, nothing is shown. -/
theorem console_opened : run.opened.console = machine.console := by
  have hopened := console_eq_of_gives (isQuiet_openProject _ _) run.opens
  have hread := console_eq_of_gives (isQuiet_read _ _) run.read
  have hstarted := isQuiet_startLog run.verbose machine
  rw [hopened, hread, hstarted, List.append_nil]

/-- The run goes on to its conclusion. -/
theorem gives_perform {status : Nat} {last : Machine}
    (h : (concludeReport run.report ((ValidateOptions.ofArguments run.arguments).threshold.getD
      run.project.settings.lint.failOn) (run.arguments.isSet jsonOption.name)
        run.project.schema.models.length).Gives run.opened status last) :
    (Request.ofLine line).perform.Gives machine status last := by
  rw [run.asked]
  unfold Request.perform
  apply gives_bind_iff.2 ⟨(), _, gives_lift (startLog run.verbose) machine, ?_⟩
  apply gives_bind_iff.2 ⟨some run.arguments, run.informed, run.read, ?_⟩
  apply gives_bind_iff.2 ⟨run.project, run.opened, run.opens, ?_⟩
  exact gives_bind_iff.2 ⟨run.report, run.opened, gives_orHalt_iff.2 ⟨run.found, rfl⟩, h⟩

end ReportRun

/-- Reports are coherent, and a run of `validate` that comes to a report has exit status 1 if the
report fails the threshold, and 0 otherwise.  It shows nothing if JSON is asked for, and else the
listing of the report and its verdict. -/
theorem validate_reports :
    (∀ report : Report, report.IsCoherent) ∧
    ∀ (line : List String) (machine : Machine) (run : ReportRun line machine),
      ∃ threshold last, run.HasThreshold threshold ∧
        (execute line : StateM Machine Ending).run machine =
          (.finished (if run.report.fails threshold then 1 else 0), last) ∧
        last.console = machine.console ++
          if run.arguments.isSet jsonOption.name then []
          else run.report.listing ++ [.verbatim "", .line (run.verdictLine threshold)] := by
  refine ⟨Report.isCoherent, fun line machine run => ?_⟩
  obtain ⟨last, hgives, hconsole⟩ := exists_gives_concludeReport run.report
    ((ValidateOptions.ofArguments run.arguments).threshold.getD run.project.settings.lint.failOn)
    (run.arguments.isSet jsonOption.name) run.project.schema.models.length run.opened
  refine ⟨_, last, run.hasThreshold, run_execute (run.gives_perform hgives), ?_⟩
  rw [hconsole, run.console_opened]
  rfl

/-- The one finding is as serious as the threshold on the line. -/
theorem validate_reports_email :
    let text := "model User \x7b\n  id Int @id\n  email String\n\x7d\n"
    let machine : Machine :=
      { tree := FileTree.withFile {} ["prisma", "schema.prisma"] text.toUTF8.toList }
    ∃ last, (execute ["validate", "--fail-on", "info"] : StateM Machine Ending).run machine =
        (.finished 1, last) ∧
      ∃ verdict, last.console = [.verbatim "", .line "[blue]Info[/blue] (1)",
        .verbatim ("  User.email (line 3): Field `email` might need a @unique constraint based " ++
          "on its naming pattern."),
        .verbatim "    → Add @unique to `email` or verify it intentionally allows duplicates.",
        .verbatim "", .line verdict] := by
  intro text machine
  let started := ((startLog false : StateM Machine Unit).run machine).2
  let reported := (reporting ["--fail-on", "info"] false).run.run started
  have hreported : (reported.1.toOption.map fun found =>
      (found.1.map fun a => (a.value? "fail-on", a.isSet jsonOption.name), found.2.2.fails .info,
        found.2.2.listing)) =
      some (some (some "info", false), true, [.verbatim "", .line "[blue]Info[/blue] (1)",
        .verbatim ("  User.email (line 3): Field `email` might need a @unique constraint based " ++
          "on its naming pattern."),
        .verbatim "    → Add @unique to `email` or verify it intentionally allows duplicates."]) := by
    decide +kernel
  obtain ⟨⟨arguments, project, report⟩, hresult, hfound⟩ := Option.map_eq_some_iff.1 hreported
  simp only [Prod.mk.injEq, Option.map_eq_some_iff] at hfound
  obtain ⟨⟨arguments, rfl, hgiven, hjson⟩, hfails, hlisting⟩ := hfound
  have hgives : (reporting ["--fail-on", "info"] false).Gives started
      (some arguments, project, report) reported.2 := Prod.ext (toOption_eq_some_iff.1 hresult) rfl
  have hasked : Request.ofLine ["validate", "--fail-on", "info"] =
      .run .validate ["--fail-on", "info"] false := rfl
  obtain ⟨run, rfl, rfl, rfl⟩ := ReportRun.exists_of_gives_reporting hasked hgives
  obtain ⟨threshold, last, hthreshold, hexecute, hconsole⟩ := validate_reports.2 _ machine run
  obtain rfl : threshold = .info := by
    have hname := threshold.ofName?_name
    rw [hthreshold.given "info" hgiven] at hname
    exact (Option.some.inj hname).symm
  rw [hfails] at hexecute
  rw [hjson, hlisting] at hconsole
  exact ⟨last, hexecute, run.verdictLine .info, hconsole⟩

end SchemaAtlas.Command

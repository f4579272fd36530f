import DockLint.Program
import DockLint.Proofs.Command.Lint
import DockLint.Proofs.Diagnostic

/-!
# How runs end

A lint command has an answer if the document is text (`lintFile_eq_error_iff`), and `Answers` says
what the answer tells about the report. A run of the program fails if the settings named for it are
unusable or the document is no text (`carryOut_eq_error_iff`). `exit_codes` puts both together.
-/

namespace DockLint

open Json (Frame Spelling)
open Settings (Unusable)

variable {h : Host} {f : Files} {s : Settings} {path : String} {format : Format} {report : Report}
  {request : Request} {here : String} {home : Option String} {failure : SettingsFailure}

namespace Command

/-! ### Answers -/

/-- What the answers in either format tell about a report. -/
structure Answers (report : Report) (answer : Format → Answer) : Prop where
  same : (answer .text).code = (answer .json).code
  range : ∀ format, (answer format).code = 0 ∨ (answer format).code = 1 ∨ (answer format).code = 2
  unavailable : ∀ format, (answer format).code = 2 ↔ ∀ exit, report.outcome ≠ .completed exit
  empty : (∀ exit, report.outcome ≠ .completed exit) → report.diagnostics = []
  notFound : report.outcome = .notFound → ∀ format,
    (answer format).printed = "hadolint not found in common paths or system PATH\n"
  launchFailed : ∀ reason, report.outcome = .launchFailed reason → ∀ format,
    (answer format).printed = "hadolint could not be run: " ++ reason ++ "\n"
  errors : ∀ format, (answer format).code = 1 ↔
    (∃ exit, report.outcome = .completed exit) ∧ ∃ d ∈ report.diagnostics, d.severity = .error
  /-- The code can be told from the array that is printed. -/
  array : ∀ exit, report.outcome = .completed exit → ∃ (frame : Frame) (es : List Spelling),
    (answer .json).printed = frame.output es ∧ frame.rest = ['\n'] ∧
      ((answer .json).code = 1 ↔ ∃ e ∈ es, e.Says "severity" "error")
  /-- It can be told from what is read of the array as well. -/
  read : ∀ exit vs rest, report.outcome = .completed exit →
    Json.readLeading (answer .json).printed.toList = .ok (vs, rest) →
      ((answer .json).code = 1 ↔
        ∃ members, Json.obj members ∈ vs ∧ members.lookup "severity" = some (.str "error"))

theorem answers_lintAnswer (path : String)
    (hnone : report.toolRan = false → report.diagnostics = []) :
    Answers report (lintAnswer path · report) where
  same := by rw [code_lintAnswer, code_lintAnswer]
  range format := by
    rw [code_lintAnswer]
    cases report.toolRan <;> cases report.hasErrors <;> decide
  unavailable format := code_eq_two_iff.trans Lint.toolRan_eq_false_iff
  empty hr := hnone (Lint.toolRan_eq_false_iff.2 hr)
  notFound hr format := by
    rw [lintAnswer, hr]
    rfl
  launchFailed reason hr format := by rw [lintAnswer, hr]
  errors format := by rw [code_eq_one_iff, Lint.toolRan_iff, Lint.hasErrors_iff]
  array exit hr := by
    refine ⟨Diagnostic.reportFrame, Diagnostic.reportElements report.diagnostics, ?_, rfl, ?_⟩
    · rw [lintAnswer, hr]
      exact Diagnostic.jsonReport_eq report.diagnostics
    · rw [code_eq_one_iff, Lint.toolRan_iff, Lint.hasErrors_iff]
      have hsays := Diagnostic.exists_says_severity_iff report.diagnostics .error
      exact ⟨fun hcode => hsays.2 hcode.2, fun he => ⟨⟨exit, hr⟩, hsays.1 he⟩⟩
  read exit vs rest hr hread := by
    rw [lintAnswer, hr] at hread
    rw [code_eq_one_iff, Lint.toolRan_iff, Lint.hasErrors_iff]
    have hlookup := Diagnostic.exists_severity_iff_of_read hread .error
    exact ⟨fun hcode => hlookup.1 hcode.2, fun he => ⟨⟨exit, hr⟩, hlookup.2 he⟩⟩

/-! ### Failures -/

theorem lintFile_eq_error_iff :
    (∃ failure, (lintFile h f s path format).value = .error failure) ↔ ¬ f.HoldsText path := by
  constructor
  · rintro ⟨failure, hvalue⟩ hholds
    obtain ⟨content, hread⟩ := Files.holdsText_iff.1 hholds
    rw [lintFile_of_ok hread] at hvalue
    cases hvalue
  · intro hholds
    obtain ⟨cause, hread⟩ := Files.exists_readText_error hholds
    exact ⟨_, congrArg Traced.value (lintFile_of_error hread)⟩

theorem trace_lintFile_of_error (hholds : ¬ f.HoldsText path) :
    (lintFile h f s path format).trace = [] := by
  obtain ⟨cause, hread⟩ := Files.exists_readText_error hholds
  rw [lintFile_of_error hread]
  rfl

theorem carryOut_eq_error_iff {command : Command} :
    (∃ failure, (command.carryOut h f s).value = .error failure) ↔
      ∃ path format, command = .lint path format ∧ ¬ f.HoldsText path := by
  cases command with
  | lint path format =>
    refine lintFile_eq_error_iff.trans ⟨fun hholds => ⟨path, format, rfl, hholds⟩, ?_⟩
    rintro ⟨path', format', hcommand, hholds⟩
    cases hcommand
    exact hholds
  | check => simp [carryOut]
  | which => simp [carryOut]

end Command

namespace Request

theorem carryOut_of_unusable (hun : Unusable f request.config? failure) :
    request.carryOut h f here home = pure (.error (.settings failure)) := by
  rw [carryOut, Settings.find_of_unusable hun]
  rfl

theorem value_carryOut (hfound : (Settings.find f request.config? here home).value = .ok s) :
    (request.carryOut h f here home).value = (request.command.carryOut h f s).value := by
  rw [carryOut, Traced.bind_of_value hfound]
  rfl

/-- A request fails if its settings are unusable or its document is no text. -/
theorem carryOut_eq_error_iff :
    (∃ failure, (request.carryOut h f here home).value = .error failure) ↔
      (∃ failure, Unusable f request.config? failure) ∨
        ∃ path format, request.command = .lint path format ∧ ¬ f.HoldsText path := by
  cases hfound : (Settings.find f request.config? here home).value with
  | error failure =>
    have hun := Settings.find_eq_error_iff.1 hfound
    rw [carryOut_of_unusable hun]
    exact ⟨fun _ => .inl ⟨failure, hun⟩, fun _ => ⟨_, rfl⟩⟩
  | ok s =>
    have husable : ¬ ∃ failure, Unusable f request.config? failure := by
      rintro ⟨failure, hun⟩
      rw [Settings.find_eq_error_iff.2 hun] at hfound
      cases hfound
    rw [value_carryOut hfound, Command.carryOut_eq_error_iff]
    exact ⟨.inr, fun he => he.resolve_left husable⟩

end Request

namespace RunResult

theorem ofAnswer_of_error {logSpec : String} {run : Traced (Except CommandFailure Answer)}
    {failure : CommandFailure} (hvalue : run.value = .error failure) :
    (ofAnswer request logSpec run).code = 2 ∧ (ofAnswer request logSpec run).stdout = "" := by
  rw [ofAnswer, hvalue]
  exact ⟨rfl, rfl⟩

theorem ofAnswer_of_ok {logSpec : String} {run : Traced (Except CommandFailure Answer)}
    {a : Answer} (hvalue : run.value = .ok a) :
    (ofAnswer request logSpec run).code = a.code ∧
      (ofAnswer request logSpec run).stdout = a.printed := by
  rw [ofAnswer, hvalue]
  exact ⟨rfl, rfl⟩

end RunResult

/-- A lint command fails without a trace, or it has the answers that its report asks for. A run of
the program passes answers on, ends with 2 and prints nothing on a failure, and does nothing at all
if the settings that are named for it are unusable. -/
theorem exit_codes (h : Host) (f : Files) :
    (∀ (s : Settings) (path : String) (format : Format),
      let run := Command.lintFile h f s path format
      ((∃ failure, run.value = .error failure) ↔ ¬ f.HoldsText path) ∧
      (¬ f.HoldsText path → run.trace = [])) ∧
    (∀ (s : Settings) (path content : String), f.read path = .ok (utf8 content) →
      let report := (Lint.execute (Command.locator s) h content (.ofText content)).value
      ∃ answer, (∀ format, (Command.lintFile h f s path format).value = .ok (answer format)) ∧
        Command.Answers report answer) ∧
    ∀ (here : String) (home : Option String) (logSpec : String),
      (∀ args, runProgram args h f here home logSpec = (CommandLine.read args).map fun request =>
        .ofAnswer request logSpec (request.carryOut h f here home)) ∧
      ∀ request : Request,
        let run := request.carryOut h f here home
        let result := RunResult.ofAnswer request logSpec run
        ((∃ failure, run.value = .error failure) ↔
          (∃ failure, Unusable f request.config? failure) ∨
            ∃ path format, request.command = .lint path format ∧ ¬ f.HoldsText path) ∧
        (∀ s, (Settings.find f request.config? here home).value = .ok s →
          run.value = (request.command.carryOut h f s).value) ∧
        (∀ failure, run.value = .error failure → result.code = 2 ∧ result.stdout = "") ∧
        (∀ a, run.value = .ok a → result.code = a.code ∧ result.stdout = a.printed) ∧
        ((∃ failure, Unusable f request.config? failure) → run.trace = []) := by
  refine ⟨fun s path format => ⟨Command.lintFile_eq_error_iff, Command.trace_lintFile_of_error⟩,
    fun s path content hread => ?_, fun here home logSpec => ⟨fun args => ?_, fun request => ?_⟩⟩
  · refine ⟨(Command.lintAnswer path · _), fun format => ?_,
      Command.answers_lintAnswer path Lint.diagnostics_eq_nil⟩
    rw [Command.lintFile_of_ok (Files.readText_eq_ok_iff.2 hread)]
    rfl
  · rw [runProgram]
    cases CommandLine.read args <;> rfl
  · refine ⟨Request.carryOut_eq_error_iff, fun s => Request.value_carryOut,
      fun failure => RunResult.ofAnswer_of_error, fun a => RunResult.ofAnswer_of_ok, ?_⟩
    rintro ⟨failure, hun⟩
    rw [Request.carryOut_of_unusable hun]
    rfl

/-- A linter that reports an error and exits with neither 0 nor 1. -/
theorem exists_exit_codes : ∃ (h : Host) (f : Files) (answer : Format → Answer),
    (∀ format, (Command.lintFile h f .default "Dockerfile" format).value = .ok (answer format)) ∧
      (answer .text).code = 1 ∧ (answer .json).code = 1 ∧
      ∃ (frame : Frame) (es : List Spelling), (answer .json).printed = frame.output es ∧
        ∃ e ∈ es, e.Says "severity" "error" := by
  let c : Completion := ⟨some 3, utf8 ("[\x7b\x22line\x22:1,\x22message\x22:\x22m\x22," ++
    "\x22level\x22:\x22error\x22\x7d]"), []⟩
  let f : Files := ⟨fun _ => true, fun _ => .ok (utf8 "FROM a"), Settings.reasonFor⟩
  obtain ⟨-, hlint, -⟩ := exit_codes (Lint.hostEnding c) f
  obtain ⟨answer, hvalue, hanswers⟩ := hlint .default "Dockerfile" "FROM a" rfl
  have hran : Lint.Ran (Command.locator .default) (Lint.hostEnding c) "FROM a" c := ⟨_, rfl, rfl⟩
  have hreport := Lint.value_execute_of_ran (.ofText "FROM a") hran
  have herror : Findings.ReportsError c.combined := by
    rw [Findings.reportsError_iff (.ofText "FROM a")]
    decide +kernel
  have hcode := (hanswers.errors .json).2
    ⟨⟨_, congrArg Report.outcome hreport⟩, Lint.hasErrors_iff.1
      ((Lint.hasErrors_execute_iff _ hran).2 herror)⟩
  obtain ⟨frame, es, hprinted, -, hsays⟩ :=
    hanswers.array _ (congrArg Report.outcome hreport)
  exact ⟨_, f, answer, hvalue, hanswers.same.trans hcode, hcode, frame, es, hprinted,
    hsays.1 hcode⟩

end DockLint

import DockLint.Lint
import DockLint.Proofs.Findings.Output
import DockLint.Proofs.Locator

/-!
# What a lint pass does

A pass takes one of three courses, and each is a sequence of steps that do not depend on what the
earlier ones yield: nothing is found (`execute_of_none`), the linter cannot be launched
(`execute_of_error`) or it is run to its end (`execute_of_ok`). `execute_course` reads off them
which processes are run, in what order and with what input, and how the report names the course.
-/

namespace DockLint

open Traced (log)

namespace Lint

variable {l : Locator} {h : Host} {content path cause : String} {table : LineTable}
  {c : Completion}

/-- The run of the linter found at `path`, with the document on standard input. -/
def lintCall (path content : String) : Invocation :=
  ⟨path, lintArgs, some (utf8 content)⟩

/-- The linter is found, launched with the document and ends as `c`. -/
def Ran (l : Locator) (h : Host) (content : String) (c : Completion) : Prop :=
  ∃ path, (l.locate h).value = some path ∧ (h.launch (lintCall path content)).result = .ok c

/-- A host with the linter in one of the usual places, where every process ends as `c`. -/
def hostEnding (c : Completion) : Host where
  isFile path := path = "/usr/local/bin/hadolint"
  lookup _ := none
  launch call := ⟨[.running call.program call.args], .ok c⟩

theorem ran_hostEnding (content : String) (c : Completion) :
    Ran ⟨.unix, none⟩ (hostEnding c) content c :=
  ⟨"/usr/local/bin/hadolint", rfl, rfl⟩

theorem invoke_of_none (hv : (l.locate h).value = none) :
    invoke l h content = (l.locate h >>= fun _ => pure (.error .notFound)) :=
  Traced.bind_of_value hv

theorem invoke_of_some (hv : (l.locate h).value = some path) :
    invoke l h content = (do
      let _ ← l.locate h
      let _ ← h.run (lintCall path content)
      return (h.launch (lintCall path content)).result.mapError (.launch path)) := by
  refine (Traced.bind_of_value hv).trans (congrArg (l.locate h >>= ·) (funext fun _ => ?_))
  refine (Traced.bind_of_value (m := h.run (lintCall path content)) rfl).trans ?_
  rw [Host.value_run]
  cases (h.launch (lintCall path content)).result <;> rfl

/-! ### The courses of a pass -/

theorem execute_of_none (hv : (l.locate h).value = none) :
    execute l h content table = (do
      let _ ← l.locate h
      log (.lintFailed .notFound)
      return ⟨.notFound, []⟩) := by
  have hi : (invoke l h content).value = .error .notFound := by
    rw [invoke_of_none hv]
    rfl
  refine (Traced.bind_of_value hi).trans ?_
  rw [invoke_of_none hv]
  simp
  rfl

theorem execute_of_error (hv : (l.locate h).value = some path)
    (hr : (h.launch (lintCall path content)).result = .error cause) :
    execute l h content table = (do
      let _ ← l.locate h
      let _ ← h.run (lintCall path content)
      log (.lintFailed (.launch path cause))
      return ⟨.launchFailed (LintFailure.launch path cause).message, []⟩) := by
  have hi : (invoke l h content).value = .error (.launch path cause) := by
    rw [invoke_of_some hv, hr]
    rfl
  refine (Traced.bind_of_value hi).trans ?_
  rw [invoke_of_some hv]
  simp
  rfl

theorem execute_of_ok (hv : (l.locate h).value = some path)
    (hr : (h.launch (lintCall path content)).result = .ok c) :
    execute l h content table = (do
      let _ ← l.locate h
      let _ ← h.run (lintCall path content)
      log (exitNote c.exit c.combined)
      let ds ← Findings.ofOutput table c.combined
      return ⟨.completed c.exit, ds⟩) := by
  have hi : (invoke l h content).value = .ok c := by
    rw [invoke_of_some hv, hr]
    rfl
  refine (Traced.bind_of_value hi).trans ?_
  rw [invoke_of_some hv]
  simp

theorem value_execute_of_ran (table : LineTable) (hran : Ran l h content c) :
    (execute l h content table).value =
      ⟨.completed c.exit, (Findings.ofOutput table c.combined).value⟩ := by
  obtain ⟨path, hv, hr⟩ := hran
  rw [execute_of_ok hv hr]
  rfl

/-- What a linter that is run to its end leaves in the log. -/
theorem notes_execute_of_ran (table : LineTable) (hran : Ran l h content c) :
    (execute l h content table).notes = (invoke l h content).notes ++
      exitNote c.exit c.combined :: (Findings.ofOutput table c.combined).notes := by
  obtain ⟨path, hv, hr⟩ := hran
  rw [execute_of_ok hv hr, invoke_of_some hv]
  simp

/-- There is no fourth course. -/
theorem course_cases (l : Locator) (h : Host) (content : String) :
    (l.locate h).value = none ∨
      (∃ path cause, (l.locate h).value = some path ∧
        (h.launch (lintCall path content)).result = .error cause) ∨
      ∃ c, Ran l h content c := by
  cases hv : (l.locate h).value with
  | none => exact .inl rfl
  | some path =>
    cases hr : (h.launch (lintCall path content)).result with
    | error cause => exact .inr (.inl ⟨path, cause, rfl, hr⟩)
    | ok c => exact .inr (.inr ⟨c, path, hv, hr⟩)

/-! ### Processes and outcomes -/

theorem outcome_eq_notFound_iff :
    (execute l h content table).value.outcome = .notFound ↔ (l.locate h).value = none := by
  obtain hv | ⟨path, cause, hv, hr⟩ | ⟨c, hran⟩ := course_cases l h content
  · rw [execute_of_none hv]
    exact ⟨fun _ => hv, fun _ => rfl⟩
  · rw [execute_of_error hv hr, hv]
    exact ⟨nofun, nofun⟩
  · rw [value_execute_of_ran table hran, hran.choose_spec.1]
    exact ⟨nofun, nofun⟩

theorem calls_execute_of_none (hv : (l.locate h).value = none) :
    (execute l h content table).calls = [l.searchCall] := by
  rw [execute_of_none hv, Traced.calls_bind, Locator.calls_locate_of_none hv]
  rfl

/-- Once the linter is run, the pass only logs. -/
theorem trace_execute_of_some (hv : (l.locate h).value = some path) :
    ∃ notes : List Note, (execute l h content table).trace =
      (l.locate h).trace ++ .run (lintCall path content) :: notes.map .log := by
  have hcourse : ∃ after : Traced Report, after.OnlyLogs ∧ execute l h content table =
      (l.locate h >>= fun _ => h.run (lintCall path content) >>= fun _ => after) := by
    cases hr : (h.launch (lintCall path content)).result with
    | error cause =>
      refine ⟨_, ?_, execute_of_error hv hr⟩
      exact .bind (.log _) (.pure _)
    | ok c =>
      refine ⟨_, ?_, execute_of_ok hv hr⟩
      exact .bind (.log _) (.bind (Findings.onlyLogs_ofOutput table c.combined) (.pure _))
  obtain ⟨after, honly, heq⟩ := hcourse
  refine ⟨(h.launch (lintCall path content)).notes ++ after.notes, ?_⟩
  rw [heq, Traced.trace_bind, Traced.trace_bind, Host.trace_run, honly, List.map_append,
    List.cons_append]

/-- A pass asks what locating the linter asks, and then runs what is found. -/
theorem questions_execute (l : Locator) (h : Host) (content : String) (table : LineTable) :
    (execute l h content table).questions = (l.locate h).questions ++
      ((l.locate h).value.toList.map (lintCall · content)).map .run := by
  cases hv : (l.locate h).value with
  | none =>
    rw [execute_of_none hv]
    simp
  | some path =>
    obtain ⟨notes, htrace⟩ : ∃ notes : List Note, (execute l h content table).trace =
        (l.locate h).trace ++ .run (lintCall path content) :: notes.map .log :=
      trace_execute_of_some hv
    have hnotes : (notes.map Event.log).filter Event.isQuestion = [] :=
      Traced.questions_logAll notes
    rw [Traced.questions, htrace, List.filter_append, List.filter_cons_of_pos rfl, hnotes]
    rfl

theorem outcome_of_some (hv : (l.locate h).value = some path) :
    (execute l h content table).value.outcome =
      match (h.launch (lintCall path content)).result with
      | .error cause => .launchFailed (LintFailure.launch path cause).message
      | .ok c => .completed c.exit := by
  cases hr : (h.launch (lintCall path content)).result with
  | error cause =>
    rw [execute_of_error hv hr]
    rfl
  | ok c =>
    rw [execute_of_ok hv hr]
    rfl

theorem toolRan_iff {r : Report} : r.toolRan = true ↔ ∃ exit, r.outcome = .completed exit := by
  unfold Report.toolRan
  cases r.outcome <;> simp

theorem toolRan_eq_false_iff {r : Report} :
    r.toolRan = false ↔ ∀ exit, r.outcome ≠ .completed exit := by
  unfold Report.toolRan
  cases r.outcome <;> simp

theorem hasErrors_iff {r : Report} :
    r.hasErrors = true ↔ ∃ d ∈ r.diagnostics, d.severity = .error := by
  simp [Report.hasErrors]

theorem toolRan_execute_iff (table : LineTable) :
    (execute l h content table).value.toolRan = true ↔ ∃ c, Ran l h content c := by
  constructor
  · intro hran
    obtain hv | ⟨path, cause, hv, hr⟩ | hc := course_cases l h content
    · rw [execute_of_none hv] at hran
      cases hran
    · rw [execute_of_error hv hr] at hran
      cases hran
    · exact hc
  · rintro ⟨c, hc⟩
    rw [value_execute_of_ran table hc]
    rfl

theorem hasErrors_execute_iff (table : LineTable) (hran : Ran l h content c) :
    (execute l h content table).value.hasErrors = true ↔ Findings.ReportsError c.combined := by
  rw [hasErrors_iff, value_execute_of_ran table hran, Findings.reportsError_iff table]

theorem exitedUnexpectedly_iff {r : Report} :
    r.exitedUnexpectedly = true ↔
      ∃ exit, r.outcome = .completed exit ∧ exit ≠ some 0 ∧ exit ≠ some 1 := by
  unfold Report.exitedUnexpectedly
  cases r.outcome <;> simp

theorem diagnostics_eq_nil (hran : (execute l h content table).value.toolRan = false) :
    (execute l h content table).value.diagnostics = [] := by
  obtain hv | ⟨path, cause, hv, hr⟩ | ⟨c, hc⟩ := course_cases l h content
  · rw [execute_of_none hv]
    rfl
  · rw [execute_of_error hv hr]
    rfl
  · rw [value_execute_of_ran table hc] at hran
    cases hran

/-- If nothing is found, the search of the executable path is the one process that is run. Otherwise
the linter is run after it, once and with the whole document, and the outcome tells how that run
ended. -/
theorem execute_course (l : Locator) (h : Host) (content : String) (table : LineTable) :
    let pass := execute l h content table
    (pass.value.outcome = .notFound ↔ (l.locate h).value = none) ∧
    ((l.locate h).value = none → pass.calls = [l.searchCall]) ∧
    (∀ path, (l.locate h).value = some path →
      let call : Invocation := ⟨path, ["--format", "json", "-"], some (utf8 content)⟩
      ((l.locate h).calls = [] ∨ (l.locate h).calls = [l.searchCall]) ∧
      (∃ notes : List Note, pass.trace = (l.locate h).trace ++ .run call :: notes.map .log) ∧
      ((∃ reason, pass.value.outcome = .launchFailed reason) ↔
        ∃ cause, (h.launch call).result = .error cause) ∧
      ∀ c, (h.launch call).result = .ok c → pass.value.outcome = .completed c.exit) ∧
    (pass.value.toolRan = false → pass.value.diagnostics = []) ∧
    (pass.value.toolRan = true ↔ ∃ exit, pass.value.outcome = .completed exit) ∧
    (pass.value.exitedUnexpectedly = true ↔
      ∃ exit, pass.value.outcome = .completed exit ∧ exit ≠ some 0 ∧ exit ≠ some 1) := by
  refine ⟨outcome_eq_notFound_iff, calls_execute_of_none, fun path hv => ?_, diagnostics_eq_nil,
    toolRan_iff, exitedUnexpectedly_iff⟩
  have houtcome : (execute l h content table).value.outcome = _ := outcome_of_some hv
  refine ⟨l.calls_locate h, trace_execute_of_some hv, ?_, fun c hr => ?_⟩
  · rw [houtcome]
    show _ ↔ ∃ cause, (h.launch (lintCall path content)).result = .error cause
    cases (h.launch (lintCall path content)).result with
    | error cause => exact ⟨fun _ => ⟨cause, rfl⟩, fun _ => ⟨_, rfl⟩⟩
    | ok c => exact ⟨nofun, nofun⟩
  · have hcall : (h.launch (lintCall path content)).result = .ok c := hr
    rw [houtcome, hcall]

end Lint

end DockLint

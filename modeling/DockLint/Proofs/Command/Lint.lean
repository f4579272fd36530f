import DockLint.Command
import DockLint.Proofs.Lint.Levels
import DockLint.Proofs.Settings

/-!
# What exit code zero means

The lint command ends with 0 if the linter has been run to its end and no error is among the
records (`exists_zero_iff`). Neither the exit of the linter nor output that cannot be read has a
part in it, but each is warned about (`lintFile_eq_zero_iff`).
-/

namespace DockLint

open Findings (BeginsWithArray ReportsError)
open Lint (Ran hostEnding)

variable {h : Host} {f : Files} {s : Settings} {path content cause : String} {format : Format}
  {r : Report}

namespace Command

theorem lintFile_of_error (hread : f.readText path = .error cause) :
    lintFile h f s path format = pure (.error (.io cause)) := by
  rw [lintFile, hread]

theorem lintFile_of_ok (hread : f.readText path = .ok content) :
    lintFile h f s path format = (fun r => .ok (lintAnswer path format r)) <$>
      Lint.execute (locator s) h content (.ofText content) := by
  rw [lintFile, hread]
  exact bind_pure_comp _ _

/-- The code does not depend on the format. -/
theorem code_lintAnswer (path : String) (format : Format) (r : Report) :
    (lintAnswer path format r).code =
      if r.toolRan then if r.hasErrors then lintErrors else 0 else unavailable := by
  rw [lintAnswer, Report.toolRan]
  cases r.outcome <;> rfl

theorem code_eq_zero_iff : (lintAnswer path format r).code = 0 ↔
    r.toolRan = true ∧ r.hasErrors = false := by
  rw [code_lintAnswer]
  cases r.toolRan <;> cases r.hasErrors <;> decide

theorem code_eq_one_iff : (lintAnswer path format r).code = 1 ↔
    r.toolRan = true ∧ r.hasErrors = true := by
  rw [code_lintAnswer]
  cases r.toolRan <;> cases r.hasErrors <;> decide

theorem code_eq_two_iff : (lintAnswer path format r).code = 2 ↔ r.toolRan = false := by
  rw [code_lintAnswer]
  cases r.toolRan <;> cases r.hasErrors <;> decide

/-- The code depends on the linter's having been run to its end, and on its output. -/
theorem exists_zero_iff : (∃ printed, (lintFile h f s path format).value = .ok ⟨0, printed⟩) ↔
    ∃ content c, f.read path = .ok (utf8 content) ∧ Ran (locator s) h content c ∧
      ¬ ReportsError c.combined := by
  cases hread : f.readText path with
  | error cause =>
    -- A file that is no text has neither an answer nor a content.
    rw [lintFile_of_error hread]
    constructor
    · rintro ⟨printed, hvalue⟩
      cases hvalue
    · rintro ⟨content, c, hbytes, -⟩
      rw [Files.readText_eq_ok_iff.2 hbytes] at hread
      cases hread
  | ok content =>
    rw [lintFile_of_ok hread, Traced.value_map]
    constructor
    · rintro ⟨printed, hvalue⟩
      obtain ⟨hran, herrors⟩ := code_eq_zero_iff.1 (congrArg Answer.code (Except.ok.inj hvalue))
      obtain ⟨c, hc⟩ := (Lint.toolRan_execute_iff _).1 hran
      refine ⟨content, c, Files.readText_eq_ok_iff.1 hread, hc, ?_⟩
      rw [← Lint.hasErrors_execute_iff (.ofText content) hc, herrors]
      exact Bool.false_ne_true
    · rintro ⟨content', c, hbytes, hc, hnot⟩
      rw [Files.readText_eq_ok_iff.2 hbytes, Except.ok.injEq] at hread
      subst hread
      have hran := (Lint.toolRan_execute_iff (.ofText content')).2 ⟨c, hc⟩
      have herrors : (Lint.execute (locator s) h content' (.ofText content')).value.hasErrors =
          false :=
        Bool.eq_false_iff.2 fun he => hnot ((Lint.hasErrors_execute_iff _ hc).1 he)
      exact ⟨_, congrArg Except.ok (congrArg (Answer.mk · _) (code_eq_zero_iff.2 ⟨hran, herrors⟩))⟩

/-- The command ends with 0 just if the linter has been run to its end and reports no error.
Whatever the code is, an odd end of the linter is warned about, and so is output that is neither
blank nor begins with an array. -/
theorem lintFile_eq_zero_iff (h : Host) (f : Files) (s : Settings) (path : String)
    (format : Format) :
    let run := lintFile h f s path format
    ((∃ printed, run.value = .ok ⟨0, printed⟩) ↔
      ∃ content c, f.read path = .ok (utf8 content) ∧ Ran (locator s) h content c ∧
        ¬ ReportsError c.combined) ∧
    ∀ content c, f.read path = .ok (utf8 content) → Ran (locator s) h content c →
      let shown := String.ofList (Text.trim c.combined.toList)
      (c.exit = none → .lintKilled shown ∈ run.warnings) ∧
      (∀ code, c.exit = some code →
        code = 0 ∨ code = 1 ∨ .lintExitedWith code shown ∈ run.warnings) ∧
      (Text.isAllBlank c.combined.toList = true ∨ BeginsWithArray c.combined ∨
        ∃ fault, .unreadableOutput fault shown ∈ run.warnings) := by
  refine ⟨exists_zero_iff, fun content c hread hran => ?_⟩
  rw [lintFile_of_ok (Files.readText_eq_ok_iff.2 hread)]
  exact Lint.warned_of_ran hran _

/-! ### A linter that crashes -/

/-- A signal ends the linter, and it has only complained. -/
def crash : Completion := ⟨none, [], utf8 "hadolint: internal error"⟩

/-- Every file has this document in it. -/
def oneDocument : Files := ⟨fun _ => true, fun _ => .ok (utf8 "FROM a"), Settings.reasonFor⟩

theorem ran_crash : Ran (locator .default) (hostEnding crash) "FROM a" crash :=
  Lint.ran_hostEnding "FROM a" crash

theorem not_beginsWithArray_crash : ¬ BeginsWithArray crash.combined := by
  decide +kernel

theorem not_reportsError_crash : ¬ ReportsError crash.combined :=
  fun ⟨f, es, hf, hes, _⟩ => not_beginsWithArray_crash ⟨f, es, hf, hes⟩

/-- There are two warnings of the crash. -/
theorem exists_lintFile_eq_zero :
    let run := lintFile (hostEnding crash) oneDocument .default "Dockerfile" .text
    ∃ printed fault, run.value = .ok ⟨0, printed⟩ ∧
      .lintKilled "hadolint: internal error" ∈ run.warnings ∧
      .unreadableOutput fault "hadolint: internal error" ∈ run.warnings := by
  intro run
  have hshown : String.ofList (Text.trim crash.combined.toList) = "hadolint: internal error" := by
    decide +kernel
  obtain ⟨hzero, hwarned⟩ :=
    lintFile_eq_zero_iff (hostEnding crash) oneDocument .default "Dockerfile" .text
  obtain ⟨printed, hvalue⟩ := hzero.2 ⟨"FROM a", crash, rfl, ran_crash, not_reportsError_crash⟩
  obtain ⟨hkilled, -, hblank | harray | ⟨fault, hfault⟩⟩ := hwarned "FROM a" crash rfl ran_crash
  · exact absurd hblank (by decide +kernel)
  · exact absurd harray not_beginsWithArray_crash
  · rw [hshown] at hkilled hfault
    exact ⟨printed, fault, hvalue, hkilled rfl, hfault⟩

/-- An exit code of 0 does not tell that the linter has not crashed. -/
theorem zero_of_killed : ¬ ∀ (h : Host) (f : Files) (s : Settings) (path content printed : String)
    (format : Format), f.read path = .ok (utf8 content) →
      (lintFile h f s path format).value = .ok ⟨0, printed⟩ →
      ∃ c, Ran (locator s) h content c ∧ (c.exit = some 0 ∨ c.exit = some 1) ∧
        (Text.isAllBlank c.combined.toList = true ∨ BeginsWithArray c.combined) ∧
        ¬ ReportsError c.combined := by
  intro hclaim
  obtain ⟨printed, hvalue⟩ : ∃ printed,
      (lintFile (hostEnding crash) oneDocument .default "Dockerfile" .text).value =
        .ok ⟨0, printed⟩ :=
    exists_zero_iff.2 ⟨"FROM a", crash, rfl, ran_crash, not_reportsError_crash⟩
  obtain ⟨c, ⟨path, -, hend⟩, hexit, -⟩ := hclaim _ _ _ _ "FROM a" _ _ rfl hvalue
  obtain rfl : crash = c := Except.ok.inj hend
  rcases hexit with hexit | hexit <;> cases hexit

end Command

end DockLint

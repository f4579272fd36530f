import DockLint.Proofs.Lint.Pass

/-!
# Errors and warnings of a lint pass

`countAt_execute`: each way in which a pass goes wrong is logged once, as an error if the linter has
not been run and as a warning if it has, and nothing else is. So a pass without either has read what
the linter printed.
-/

namespace DockLint.Lint

open Findings (BeginsWithArray Unreadable)
open Traced (log)

variable {l : Locator} {h : Host} {content path cause : String} {table : LineTable}
  {c : Completion}

theorem warns_exitNote (exit : Option Int) (output : String) :
    (log (exitNote exit output)).Warns (if exit ≠ some 0 ∧ exit ≠ some 1 then 1 else 0) := by
  unfold exitNote
  cases exit with
  | none => exact ⟨rfl, rfl⟩
  | some code =>
    dsimp only
    split
    · rename_i hcode
      rw [if_neg (by rcases hcode with rfl | rfl <;> simp)]
      exact ⟨rfl, rfl⟩
    · rename_i hcode
      rw [if_pos (by simpa [not_or] using hcode)]
      exact ⟨rfl, rfl⟩

/-! ### Each course by itself -/

theorem countAt_error_of_none (hq : h.Quiet) (hv : (l.locate h).value = none) :
    (execute l h content table).countAt .error = if h.Fails l.searchCall then 2 else 1 := by
  rw [execute_of_none hv, Traced.countAt_bind, Locator.countAt_error_locate_of_none hq hv]
  split <;> rfl

theorem countAt_warn_of_none (hq : h.Quiet) (hv : (l.locate h).value = none) :
    (execute l h content table).countAt .warn = if l.overrideMissing h then 1 else 0 := by
  rw [execute_of_none hv, Traced.countAt_bind, Locator.countAt_warn_locate hq]
  rfl

theorem countAt_error_of_error (hq : h.Quiet) (hv : (l.locate h).value = some path)
    (hr : (h.launch (lintCall path content)).result = .error cause) :
    (execute l h content table).countAt .error = 1 := by
  rw [execute_of_error hv hr, Traced.countAt_bind, Traced.countAt_bind,
    Locator.countAt_error_locate_of_some hq hv, (Host.warns_run hq _).error]
  rfl

theorem countAt_warn_of_error (hq : h.Quiet) (hv : (l.locate h).value = some path)
    (hr : (h.launch (lintCall path content)).result = .error cause) :
    (execute l h content table).countAt .warn = if l.overrideMissing h then 1 else 0 := by
  rw [execute_of_error hv hr, Traced.countAt_bind, Traced.countAt_bind,
    Locator.countAt_warn_locate hq, (Host.warns_run hq _).warn]
  rfl

theorem countAt_error_of_ran (hq : h.Quiet) (table : LineTable) (hran : Ran l h content c) :
    (execute l h content table).countAt .error = 0 := by
  obtain ⟨path, hv, hr⟩ := hran
  rw [execute_of_ok hv hr]
  simp only [Traced.countAt_bind, Locator.countAt_error_locate_of_some hq hv,
    (Host.warns_run hq _).error, (warns_exitNote c.exit c.combined).error,
    (Findings.warns_ofOutput table c.combined).error, Traced.countAt_pure]

theorem countAt_warn_of_ran (hq : h.Quiet) (table : LineTable) (hran : Ran l h content c) :
    (execute l h content table).countAt .warn = (if l.overrideMissing h then 1 else 0) +
      (if c.exit ≠ some 0 ∧ c.exit ≠ some 1 then 1 else 0) +
      (if Unreadable c.combined then 1 else 0) := by
  obtain ⟨path, hv, hr⟩ := hran
  rw [execute_of_ok hv hr]
  simp only [Traced.countAt_bind, Locator.countAt_warn_locate hq,
    (Host.warns_run hq _).warn, (warns_exitNote c.exit c.combined).warn,
    (Findings.warns_ofOutput table c.combined).warn, Traced.countAt_pure]
  omega

/-! ### All courses -/

theorem countAt_error_execute (hq : h.Quiet) (l : Locator) (content : String) (table : LineTable) :
    (execute l h content table).countAt .error =
      match (execute l h content table).value.outcome with
      | .completed _ => 0
      | .launchFailed _ => 1
      | .notFound => if h.Fails l.searchCall then 2 else 1 := by
  obtain hv | ⟨path, cause, hv, hr⟩ | ⟨c, hran⟩ := course_cases l h content
  · rw [countAt_error_of_none hq hv, outcome_eq_notFound_iff.2 hv]
  · rw [countAt_error_of_error hq hv hr, execute_of_error hv hr]
    rfl
  · rw [countAt_error_of_ran hq table hran, value_execute_of_ran table hran]

/-- A pass that logs neither an error nor a warning has read what a linter without a complaint
printed. -/
theorem read_of_countAt_eq_zero (hq : h.Quiet)
    (herror : (execute l h content table).countAt .error = 0)
    (hwarn : (execute l h content table).countAt .warn = 0) :
    ∃ c, Ran l h content c ∧ (c.exit = some 0 ∨ c.exit = some 1) ∧
      (Text.isAllBlank c.combined.toList = true ∨ BeginsWithArray c.combined) := by
  obtain hv | ⟨path, cause, hv, hr⟩ | ⟨c, hran⟩ := course_cases l h content
  · rw [countAt_error_of_none hq hv] at herror
    split at herror <;> cases herror
  · rw [countAt_error_of_error hq hv hr] at herror
    cases herror
  · rw [countAt_warn_of_ran hq table hran] at hwarn
    have hexit : ¬ (c.exit ≠ some 0 ∧ c.exit ≠ some 1) := fun he => by
      rw [if_pos he] at hwarn
      omega
    have hread : ¬ Unreadable c.combined := fun hu => by
      rw [if_pos hu] at hwarn
      omega
    refine ⟨c, hran, ?_, ?_⟩
    · exact Decidable.or_iff_not_not_and_not.2 hexit
    · cases hb : Text.isAllBlank c.combined.toList with
      | true => exact .inl rfl
      | false => exact .inr (Decidable.not_not.1 fun hn => hread ⟨hb, hn⟩)

/-- Errors are counted by the outcome. Of warnings there is one about a path in the settings that is
no file and, once the linter has been run, one about its exit and one about its output. -/
theorem countAt_execute (l : Locator) (h : Host) (content : String) (table : LineTable)
    (hq : h.Quiet) :
    let pass := execute l h content table
    let missing := if l.overrideMissing h then 1 else 0
    (pass.countAt .error = match pass.value.outcome with
      | .completed _ => 0
      | .launchFailed _ => 1
      | .notFound => if h.Fails l.searchCall then 2 else 1) ∧
    (pass.value.toolRan = false → pass.countAt .warn = missing) ∧
    (pass.value.toolRan = true → ∃ c, Ran l h content c ∧
      pass.value.outcome = .completed c.exit ∧
      pass.countAt .warn = missing + (if c.exit ≠ some 0 ∧ c.exit ≠ some 1 then 1 else 0) +
        (if Unreadable c.combined then 1 else 0)) ∧
    (pass.countAt .error = 0 → pass.countAt .warn = 0 → ∃ c, Ran l h content c ∧
      (c.exit = some 0 ∨ c.exit = some 1) ∧
      (Text.isAllBlank c.combined.toList = true ∨ BeginsWithArray c.combined)) := by
  refine ⟨countAt_error_execute hq l content table, fun hran => ?_, fun hran => ?_,
    read_of_countAt_eq_zero hq⟩
  · obtain hv | ⟨path, cause, hv, hr⟩ | ⟨c, hc⟩ := course_cases l h content
    · exact countAt_warn_of_none hq hv
    · exact countAt_warn_of_error hq hv hr
    · rw [value_execute_of_ran table hc] at hran
      cases hran
  · obtain hv | ⟨path, cause, hv, hr⟩ | ⟨c, hc⟩ := course_cases l h content
    · rw [execute_of_none hv] at hran
      cases hran
    · rw [execute_of_error hv hr] at hran
      cases hran
    · refine ⟨c, hc, ?_, countAt_warn_of_ran hq table hc⟩
      rw [value_execute_of_ran table hc]

/-- A path in the settings that is no file, an odd exit and output that is no array, in one pass. -/
theorem exists_countAt_execute : ∃ (l : Locator) (h : Host), h.Quiet ∧
    (execute l h "FROM a" (.ofText "FROM a")).countAt .error = 0 ∧
    (execute l h "FROM a" (.ofText "FROM a")).countAt .warn = 3 := by
  let l : Locator := ⟨.unix, some "/opt/hadolint"⟩
  let c : Completion := ⟨some 3, utf8 "oops", []⟩
  have hq : (hostEnding c).Quiet := fun call note hnote => by
    rw [List.mem_singleton.1 hnote]
    exact Nat.le_refl 4
  have hran : Ran l (hostEnding c) "FROM a" c := ⟨"/usr/local/bin/hadolint", rfl, rfl⟩
  obtain ⟨herror, -, hwarn, -⟩ :=
    countAt_execute l (hostEnding c) "FROM a" (.ofText "FROM a") hq
  obtain ⟨c', ⟨path, -, hend⟩, houtcome, hcount⟩ :=
    hwarn (congrArg Report.toolRan (value_execute_of_ran (.ofText "FROM a") hran))
  obtain rfl : c = c' := Except.ok.inj hend
  rw [houtcome] at herror
  exact ⟨l, hostEnding c, hq, herror, hcount.trans (by decide)⟩

/-! ### Which warnings -/

theorem mem_warnings_of_exit (hran : Ran l h content c) (table : LineTable)
    (hlevel : (exitNote c.exit c.combined).level = .warn) :
    exitNote c.exit c.combined ∈ (execute l h content table).warnings := by
  rw [Traced.mem_warnings_iff, notes_execute_of_ran table hran]
  exact ⟨List.mem_append_right _ List.mem_cons_self, hlevel⟩

theorem mem_warnings_of_unreadable (hran : Ran l h content c) (table : LineTable)
    (hread : Unreadable c.combined) : ∃ fault, .unreadableOutput fault
      (String.ofList (Text.trim c.combined.toList)) ∈ (execute l h content table).warnings := by
  cases hr : Json.readLeading c.combined.toList with
  | ok r => exact absurd (Findings.beginsWithArray_iff.2 ⟨r, hr⟩) hread.2
  | error fault =>
    refine ⟨fault, ?_⟩
    rw [Traced.mem_warnings_iff, notes_execute_of_ran table hran,
      Findings.ofOutput_of_error table hread.1 hr]
    exact ⟨by simp, rfl⟩

/-- An odd end of the linter is warned about, and so is output that cannot be read; the warnings
show the output. -/
theorem warned_of_ran (hran : Ran l h content c) (table : LineTable) :
    let warnings := (execute l h content table).warnings
    let shown := String.ofList (Text.trim c.combined.toList)
    (c.exit = none → .lintKilled shown ∈ warnings) ∧
    (∀ code, c.exit = some code → code = 0 ∨ code = 1 ∨ .lintExitedWith code shown ∈ warnings) ∧
    (Text.isAllBlank c.combined.toList = true ∨ BeginsWithArray c.combined ∨
      ∃ fault, .unreadableOutput fault shown ∈ warnings) := by
  have hexit := mem_warnings_of_exit hran table
  refine ⟨fun he => ?_, fun code he => ?_, ?_⟩
  · rw [he] at hexit
    exact hexit rfl
  · by_cases hcode : code = 0 ∨ code = 1
    · exact hcode.imp_right .inl
    · rw [he, exitNote, if_neg hcode] at hexit
      exact .inr (.inr (hexit rfl))
  · cases hb : Text.isAllBlank c.combined.toList with
    | true => exact .inl rfl
    | false =>
      by_cases harray : BeginsWithArray c.combined
      · exact .inr (.inl harray)
      · exact .inr (.inr (mem_warnings_of_unreadable hran table ⟨hb, harray⟩))

end DockLint.Lint

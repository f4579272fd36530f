import DockLint.Command
import DockLint.Proofs.Health
import DockLint.Proofs.Lint.Pass

/-!
# Which linter the commands speak of

A lint pass and a health check ask what locating the linter asks and then run what it has found,
each once (`questions_execute`, `questions_check`). So `commands_agree`: on one host the commands
speak of the same linter, or all say that there is none.
-/

namespace DockLint

variable {l : Locator} {h : Host}

namespace Command

theorem value_execute_of_none (content : String) (table : LineTable)
    (hv : (l.locate h).value = none) : (Lint.execute l h content table).value = ⟨.notFound, []⟩ ∧
      .lintFailed .notFound ∈ (Lint.execute l h content table).notes := by
  rw [Lint.execute_of_none hv]
  exact ⟨rfl, by simp⟩

/-- Whatever is found is what each command shows, runs or misses. -/
theorem commands_agree (l : Locator) (h : Host) (content : String) (table : LineTable) :
    let found := l.locate h
    let pass := Lint.execute l h content table
    let health := Health.check l h
    let shown := whichAnswer <$> l.locate h
    let missing := "hadolint not found in common paths or system PATH"
    (∀ (f : Files) (s : Settings), locator s = l → carryOut h f s .which = Except.ok <$> shown) ∧
    (pass.probes = found.probes ∧ health.probes = found.probes ∧ shown.probes = found.probes) ∧
    (found.value = none →
      (pass.questions = found.questions ∧ health.questions = found.questions ∧
        shown.questions = found.questions) ∧
      pass.value = ⟨.notFound, []⟩ ∧ (∃ note ∈ pass.notes,
        note.text = "Hadolint execution failed: " ++ missing) ∧
      health.value = .missing missing ∧ shown.value = ⟨2, missing ++ "\n"⟩) ∧
    (∀ path, found.value = some path →
      let version : Invocation := ⟨path, ["--version"], none⟩
      (pass.questions = found.questions ++
          [.run ⟨path, ["--format", "json", "-"], some (utf8 content)⟩] ∧
        health.questions = found.questions ++ [.run version] ∧
        shown.questions = found.questions) ∧
      shown.value = ⟨0, path ++ "\n"⟩ ∧
      ((∃ reason, health.value = .missing reason) ↔ h.Fails version) ∧
      (∀ p exit, health.value = .unhealthy p exit ↔
        path = p ∧ ∃ c, (h.launch version).result = .ok c ∧ c.exit = exit ∧ exit ≠ some 0) ∧
      (∀ p number, health.value = .healthy p number ↔ path = p ∧ ∃ c,
        (h.launch version).result = .ok c ∧ c.exit = some 0 ∧
          Health.version? c.combined = number)) ∧
    (health.value.notice? = none ↔ ∃ path number, health.value = .healthy path number) := by
  have hpass := Lint.questions_execute l h content table
  have hhealth := Health.questions_check l h
  refine ⟨?_, ⟨Traced.probes_of_questions_append hpass, Traced.probes_of_questions_append hhealth,
    rfl⟩, fun hv => ?_, fun path hv => ?_, Health.notice?_eq_none_iff⟩
  · rintro f s rfl
    rfl
  · obtain ⟨hvalue, hnote⟩ := value_execute_of_none content table hv
    rw [hv] at hpass hhealth
    refine ⟨⟨hpass.trans (List.append_nil _), hhealth.trans (List.append_nil _), rfl⟩, hvalue,
      ⟨_, hnote, rfl⟩, Health.value_check_of_none hv, ?_⟩
    rw [Traced.value_map, hv]
    rfl
  · have hstatus := Health.value_check_of_some hv
    rw [hv] at hpass hhealth
    refine ⟨⟨hpass, hhealth, rfl⟩, ?_, ?_, fun p exit => ?_, fun p number => ?_⟩
    · rw [Traced.value_map, hv]
      rfl
    · rw [hstatus]
      exact Health.statusOf_eq_missing_iff
    · rw [hstatus]
      exact Health.statusOf_eq_unhealthy_iff
    · rw [hstatus]
      exact Health.statusOf_eq_healthy_iff

/-- A linter whose version cannot be had. -/
theorem exists_commands_agree : ∃ (l : Locator) (h : Host) (path : String),
    (l.locate h).value = some path ∧ (whichAnswer <$> l.locate h).value = ⟨0, path ++ "\n"⟩ ∧
      (Lint.execute l h "FROM a" (.ofText "FROM a")).questions =
        [.probe path, .run (Lint.lintCall path "FROM a")] ∧
      (Health.check l h).questions = [.probe path, .run ⟨path, ["--version"], none⟩] ∧
      (Health.check l h).value = .unhealthy path (some 3) := by
  let l : Locator := ⟨.unix, none⟩
  let h : Host := Lint.hostEnding ⟨some 3, [], []⟩
  have hv : (l.locate h).value = some "/usr/local/bin/hadolint" := rfl
  obtain ⟨-, -, -, hsome, -⟩ := commands_agree l h "FROM a" (.ofText "FROM a")
  obtain ⟨⟨hpass, hhealth, -⟩, hshown, -, hunhealthy, -⟩ := hsome _ hv
  exact ⟨l, h, _, hv, hshown, hpass, hhealth, (hunhealthy _ _).2 ⟨rfl, _, rfl, rfl, by decide⟩⟩

end Command

end DockLint

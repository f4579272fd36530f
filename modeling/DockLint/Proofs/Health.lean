import DockLint.Health
import DockLint.Proofs.Locator

/-!
# What a health check does

A check looks for the linter and asks the one it finds for its version (`questions_check`). How that
run ends decides on the status (`value_check_of_some`), and the user is told of every status but the
healthy (`notice?_eq_none_iff`).
-/

namespace DockLint.Health

open Traced (logAll)

variable {l : Locator} {h : Host} {path p : String} {exit : Option Int} {version : Option String}
  {result : Except String Completion} {s : Status}

/-- The run that asks the linter found at `path` for its version; it is given nothing to read. -/
def versionCall (path : String) : Invocation :=
  ⟨path, versionArgs, none⟩

/-- The status that the end of that run stands for. -/
def statusOf (path : String) : Except String Completion → Status
  | .error cause => .missing cause
  | .ok c => if c.exit = some 0 then .healthy path (version? c.combined) else .unhealthy path c.exit

/-! ### The course of a check -/

theorem check_of_none (hv : (l.locate h).value = none) :
    check l h = (l.locate h >>= fun _ => pure (.missing LintFailure.notFound.message)) :=
  Traced.bind_of_value hv

/-- The cases are the ends of the run; they differ in what is logged. -/
theorem check_of_some (hv : (l.locate h).value = some path) :
    ∃ notes, check l h = (do
      let _ ← l.locate h
      let _ ← h.run (versionCall path)
      logAll notes
      return statusOf path (h.launch (versionCall path)).result) := by
  cases hr : (h.launch (versionCall path)).result with
  | error cause =>
    refine ⟨[.notLaunched path cause], ?_⟩
    refine (Traced.bind_of_value hv).trans (congrArg (l.locate h >>= ·) (funext fun _ => ?_))
    exact Traced.bind_of_value (m := h.run (versionCall path)) hr
  | ok c =>
    have hend {notes : List Note} (hjudged : (if c.succeeded then do
          Traced.log (.healthy (version? c.combined) path)
          return .healthy path (version? c.combined)
        else return .unhealthy path c.exit) = (logAll notes >>= fun _ =>
          pure (statusOf path (.ok c)) : Traced Status)) :
        check l h = (l.locate h >>= fun _ => h.run (versionCall path) >>= fun _ =>
          logAll notes >>= fun _ => pure (statusOf path (.ok c))) := by
      rw [← hjudged]
      refine (Traced.bind_of_value hv).trans (congrArg (l.locate h >>= ·) (funext fun _ => ?_))
      exact Traced.bind_of_value (m := h.run (versionCall path)) hr
    by_cases hexit : c.exit = some 0
    · refine ⟨[.healthy (version? c.combined) path], hend ?_⟩
      rw [Completion.succeeded, hexit, statusOf, if_pos hexit]
      rfl
    · refine ⟨[], hend ?_⟩
      rw [Completion.succeeded, beq_false_of_ne hexit, statusOf, if_neg hexit]
      rfl

theorem questions_check (l : Locator) (h : Host) :
    (check l h).questions = (l.locate h).questions ++
      ((l.locate h).value.toList.map versionCall).map .run := by
  cases hv : (l.locate h).value with
  | none =>
    rw [check_of_none hv]
    simp
  | some path =>
    obtain ⟨notes, heq⟩ := check_of_some hv
    rw [heq]
    simp

/-! ### The status -/

theorem value_check_of_none (hv : (l.locate h).value = none) :
    (check l h).value = .missing LintFailure.notFound.message := by
  rw [check_of_none hv]
  rfl

theorem value_check_of_some (hv : (l.locate h).value = some path) :
    (check l h).value = statusOf path (h.launch (versionCall path)).result := by
  obtain ⟨notes, heq⟩ := check_of_some hv
  rw [heq]
  rfl

theorem statusOf_eq_missing_iff :
    (∃ reason, statusOf path result = .missing reason) ↔ ∃ cause, result = .error cause := by
  cases result with
  | error cause => exact ⟨fun _ => ⟨cause, rfl⟩, fun _ => ⟨cause, rfl⟩⟩
  | ok c =>
    unfold statusOf
    by_cases hexit : c.exit = some 0 <;> simp [hexit]

theorem statusOf_eq_unhealthy_iff :
    statusOf path result = .unhealthy p exit ↔
      path = p ∧ ∃ c, result = .ok c ∧ c.exit = exit ∧ exit ≠ some 0 := by
  cases result with
  | error cause => simp [statusOf]
  | ok c =>
    by_cases hexit : c.exit = some 0
    · rw [statusOf, if_pos hexit]
      constructor
      · exact nofun
      · rintro ⟨-, c', hc, he, hne⟩
        obtain rfl := Except.ok.inj hc
        exact absurd (he ▸ hexit) hne
    · rw [statusOf, if_neg hexit, Status.unhealthy.injEq]
      constructor
      · rintro ⟨rfl, rfl⟩
        exact ⟨rfl, c, rfl, rfl, hexit⟩
      · rintro ⟨rfl, c', hc, he, -⟩
        obtain rfl := Except.ok.inj hc
        exact ⟨rfl, he⟩

theorem statusOf_eq_healthy_iff :
    statusOf path result = .healthy p version ↔
      path = p ∧ ∃ c, result = .ok c ∧ c.exit = some 0 ∧ version? c.combined = version := by
  cases result with
  | error cause => simp [statusOf]
  | ok c =>
    unfold statusOf
    by_cases hexit : c.exit = some 0 <;> simp [hexit]

/-- The user is told of every other status. -/
theorem notice?_eq_none_iff : s.notice? = none ↔ ∃ path version, s = .healthy path version := by
  cases s <;> simp [Status.notice?]

end DockLint.Health

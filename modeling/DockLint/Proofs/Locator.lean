import DockLint.Locator
import DockLint.Proofs.Traced

/-!
# What locating the linter does

`locate_eq`: the known places are looked at up to the first file, and only when none of them is one
the executable path is searched. So at most one process is run (`calls_locate`), and what is logged
is a warning about a path that the settings name and that is no file, and an error about a search
that cannot be launched.
-/

namespace DockLint.Locator

open Traced (log)

variable {l : Locator} {h : Host} {path : String} {paths : List String}

/-- The search of the executable path. -/
def searchCall (l : Locator) : Invocation :=
  ⟨l.platform.searchCommand, [linterName], none⟩

/-- The settings name a path that is no file. -/
def overrideMissing (l : Locator) (h : Host) : Bool :=
  l.override?.any fun path => !h.isFile path

/-- Where a file is looked for, in this order. -/
def places (l : Locator) (h : Host) : List String :=
  l.override?.toList ++ l.candidates h

/-! ### The search of the executable path -/

theorem search_of_error {cause : String} (hr : (h.launch l.searchCall).result = .error cause) :
    l.search h = (do
      let _ ← h.run l.searchCall
      log (.searchNotRun cause)
      return none) := by
  rw [search]
  exact Traced.bind_of_value (m := h.run l.searchCall) hr

/-- What is made of the output of a search is only logged for information. -/
theorem search_of_ok {c : Completion} (hr : (h.launch l.searchCall).result = .ok c) :
    ∃ after : Traced (Option String), l.search h = (h.run l.searchCall >>= fun _ => after) ∧
      after.value = (if c.succeeded then pathIn c.stdoutText else none) ∧ after.calls = [] ∧
      after.Warns 0 := by
  refine ⟨_, Traced.bind_of_value hr, ?_⟩
  dsimp only
  cases c.succeeded with
  | false => exact ⟨rfl, rfl, rfl, rfl⟩
  | true =>
    rw [if_pos rfl, if_pos rfl]
    cases pathIn c.stdoutText with
    | none => exact ⟨rfl, rfl, rfl, rfl⟩
    | some path => exact ⟨rfl, rfl, rfl, rfl⟩

theorem calls_search (l : Locator) (h : Host) : (l.search h).calls = [l.searchCall] := by
  cases hr : (h.launch l.searchCall).result with
  | error cause =>
    rw [search_of_error hr, Traced.calls_bind, Host.calls_run]
    rfl
  | ok c =>
    obtain ⟨after, heq, -, hcalls, -⟩ := search_of_ok hr
    rw [heq, Traced.calls_bind, Host.calls_run, hcalls]
    rfl

theorem countAt_error_search (hq : h.Quiet) :
    (l.search h).countAt .error = if h.Fails l.searchCall then 1 else 0 := by
  have hrun := (Host.warns_run hq l.searchCall).error
  cases hr : (h.launch l.searchCall).result with
  | error cause =>
    rw [search_of_error hr, Traced.countAt_bind, hrun, if_pos ⟨cause, hr⟩]
    rfl
  | ok c =>
    obtain ⟨after, heq, -, -, hafter⟩ := search_of_ok hr
    rw [heq, Traced.countAt_bind, hrun, hafter.error, if_neg]
    rintro ⟨cause, he⟩
    rw [hr] at he
    cases he

theorem countAt_warn_search (hq : h.Quiet) : (l.search h).countAt .warn = 0 := by
  have hrun := (Host.warns_run hq l.searchCall).warn
  cases hr : (h.launch l.searchCall).result with
  | error cause =>
    rw [search_of_error hr, Traced.countAt_bind, hrun]
    rfl
  | ok c =>
    obtain ⟨after, heq, -, -, hafter⟩ := search_of_ok hr
    rw [heq, Traced.countAt_bind, hrun, hafter.warn]

/-- A search that cannot be launched finds nothing. -/
theorem not_fails_of_value_search (hv : (l.search h).value = some path) :
    ¬ h.Fails l.searchCall := by
  rintro ⟨cause, hr⟩
  rw [search_of_error hr] at hv
  cases hv

/-! ### The places before it -/

/-- What is done once the places have been looked at: the first that is a file is taken. -/
def choose (l : Locator) (h : Host) (paths : List String) : Traced (Option String) :=
  match paths.find? h.isFile with
  | some path => pure (some path)
  | none => l.search h

theorem choose_of_file (hf : h.isFile path = true) :
    l.choose h (path :: paths) = pure (some path) := by
  rw [choose, List.find?_cons_of_pos hf]

theorem choose_of_not_file (hf : h.isFile path = false) :
    l.choose h (path :: paths) = l.choose h paths := by
  rw [choose, List.find?_cons_of_neg (by simp [hf]), choose]

/-- The induction is on the places; those before the first file are only looked at. -/
theorem locateIn_eq (l : Locator) (h : Host) (paths : List String) :
    ∃ looked : Traced Unit, looked.calls = [] ∧ looked.Warns 0 ∧
      l.locateIn h paths = (looked >>= fun _ => l.choose h paths) := by
  induction paths with
  | nil => exact ⟨pure (), rfl, .pure (), (pure_bind _ _).symm⟩
  | cons path rest ih =>
    let asked : Traced Unit := log (.checking path) >>= fun _ => (fun _ => ()) <$> h.probe path
    have hasked : l.locateIn h (path :: rest) = (asked >>= fun _ =>
        if h.isFile path then log (.found path) >>= fun _ => pure (some path)
        else l.locateIn h rest) := rfl
    cases hf : h.isFile path with
    | true =>
      refine ⟨asked >>= fun _ => log (.found path), rfl, ⟨rfl, rfl⟩, ?_⟩
      rw [hasked, hf, choose_of_file hf, bind_assoc]
      rfl
    | false =>
      obtain ⟨looked, hcalls, hwarns, heq⟩ := ih
      refine ⟨asked >>= fun _ => looked, hcalls, .bind (a := 0) (b := 0) ⟨rfl, rfl⟩ hwarns, ?_⟩
      rw [hasked, hf, heq, bind_assoc, choose_of_not_file hf]
      rfl

/-- The known places are looked at, and the executable path is searched if none of them is a
file. -/
theorem locate_eq (l : Locator) (h : Host) :
    ∃ looked : Traced Unit, looked.calls = [] ∧
      looked.Warns (if l.overrideMissing h then 1 else 0) ∧
      l.locate h = (looked >>= fun _ => l.choose h (l.places h)) := by
  obtain ⟨looked, hcalls, hwarns, heq⟩ := locateIn_eq l h (l.candidates h)
  unfold locate overrideMissing places
  cases l.override? with
  | none => exact ⟨looked, hcalls, hwarns, heq⟩
  | some path =>
    let asked : Traced Unit := (fun _ => ()) <$> h.probe path
    have hasked : (h.probe path >>= fun found =>
        if found then log (.overrideUsed path) >>= fun _ => pure (some path)
        else log (.overrideMissing path) >>= fun _ => l.locateIn h (l.candidates h)) =
      (asked >>= fun _ =>
        if h.isFile path then log (.overrideUsed path) >>= fun _ => pure (some path)
        else log (.overrideMissing path) >>= fun _ => l.locateIn h (l.candidates h)) := rfl
    cases hf : h.isFile path with
    | true =>
      refine ⟨asked >>= fun _ => log (.overrideUsed path), rfl, ?_, ?_⟩
      · rw [if_neg (by simp [hf])]
        exact ⟨rfl, rfl⟩
      · refine hasked.trans ?_
        show _ = (asked >>= fun _ => log (.overrideUsed path)) >>= fun _ =>
          l.choose h (path :: l.candidates h)
        rw [choose_of_file hf, hf, bind_assoc]
        rfl
    | false =>
      refine ⟨asked >>= fun _ => log (.overrideMissing path) >>= fun _ => looked, hcalls, ?_, ?_⟩
      · rw [if_pos (by simp [hf])]
        exact .bind (a := 0) (b := 1) ⟨rfl, rfl⟩ (.bind (a := 1) (b := 0) ⟨rfl, rfl⟩ hwarns)
      · refine hasked.trans ?_
        show _ = (asked >>= fun _ => log (.overrideMissing path) >>= fun _ => looked) >>= fun _ =>
          l.choose h (path :: l.candidates h)
        rw [choose_of_not_file hf, hf, heq, bind_assoc]
        rfl

/-! ### What locating leaves behind -/

theorem locate_cases (l : Locator) (h : Host) :
    ∃ looked : Traced Unit, looked.calls = [] ∧
      looked.Warns (if l.overrideMissing h then 1 else 0) ∧
      ((∃ path, l.locate h = (looked >>= fun _ => pure (some path))) ∨
        l.locate h = (looked >>= fun _ => l.search h)) := by
  obtain ⟨looked, hcalls, hwarns, heq⟩ := locate_eq l h
  rw [choose] at heq
  refine ⟨looked, hcalls, hwarns, ?_⟩
  cases hfind : (l.places h).find? h.isFile with
  | some path => exact .inl ⟨path, by rw [heq, hfind]⟩
  | none => exact .inr (by rw [heq, hfind])

/-- No process is run but the search. -/
theorem calls_locate (l : Locator) (h : Host) :
    (l.locate h).calls = [] ∨ (l.locate h).calls = [l.searchCall] := by
  obtain ⟨looked, hcalls, -, ⟨path, heq⟩ | heq⟩ := locate_cases l h
  · rw [heq, Traced.calls_bind, hcalls]
    exact .inl rfl
  · rw [heq, Traced.calls_bind, hcalls, calls_search]
    exact .inr rfl

/-- Nothing is found only if the search has been run. -/
theorem calls_locate_of_none (hv : (l.locate h).value = none) :
    (l.locate h).calls = [l.searchCall] := by
  obtain ⟨looked, hcalls, -, ⟨path, heq⟩ | heq⟩ := locate_cases l h
  · rw [heq] at hv
    cases hv
  · rw [heq, Traced.calls_bind, hcalls, calls_search]
    rfl

theorem countAt_error_locate_of_none (hq : h.Quiet) (hv : (l.locate h).value = none) :
    (l.locate h).countAt .error = if h.Fails l.searchCall then 1 else 0 := by
  obtain ⟨looked, -, hwarns, ⟨path, heq⟩ | heq⟩ := locate_cases l h
  · rw [heq] at hv
    cases hv
  · rw [heq, Traced.countAt_bind, hwarns.error, countAt_error_search hq, Nat.zero_add]

theorem countAt_error_locate_of_some (hq : h.Quiet) (hv : (l.locate h).value = some path) :
    (l.locate h).countAt .error = 0 := by
  obtain ⟨looked, -, hwarns, ⟨path, heq⟩ | heq⟩ := locate_cases l h
  · rw [heq, Traced.countAt_bind, hwarns.error]
    rfl
  · rw [heq] at hv
    rw [heq, Traced.countAt_bind, hwarns.error, countAt_error_search hq,
      if_neg (not_fails_of_value_search hv)]

theorem countAt_warn_locate (hq : h.Quiet) (l : Locator) :
    (l.locate h).countAt .warn = if l.overrideMissing h then 1 else 0 := by
  obtain ⟨looked, -, hwarns, ⟨path, heq⟩ | heq⟩ := locate_cases l h
  · rw [heq, Traced.countAt_bind, hwarns.warn]
    rfl
  · rw [heq, Traced.countAt_bind, hwarns.warn, countAt_warn_search hq, Nat.add_zero]

end DockLint.Locator

import DockLint.Proofs.Locator
import DockLint.Proofs.Text.Blank

/-!
# In what order the linter is looked for

Places that are no file are passed over one by one (`locateIn_append`), and a path in the settings
is a place like the others (`locate_places`). So `locate_order`: the first of the places that is a
file is taken with no question behind it, and if there is none, the executable path is searched once
and after all of them.
-/

namespace DockLint.Locator

variable {l : Locator} {h : Host} {path : String} {front rest paths : List String}
  {c : Completion}

/-! ### The known places -/

theorem locateIn_cons_of_file (l : Locator) (rest : List String) (hf : h.isFile path = true) :
    (l.locateIn h (path :: rest)).value = some path ∧
      (l.locateIn h (path :: rest)).questions = [.probe path] := by
  constructor <;> simp [locateIn, hf]

theorem locateIn_cons_of_not_file (l : Locator) (rest : List String)
    (hf : h.isFile path = false) :
    (l.locateIn h (path :: rest)).value = (l.locateIn h rest).value ∧
      (l.locateIn h (path :: rest)).questions = .probe path :: (l.locateIn h rest).questions := by
  constructor <;> simp [locateIn, hf]

/-- Places that are no file are asked for in their order and passed over. -/
theorem locateIn_append (l : Locator) (rest : List String)
    (hfront : ∀ p ∈ front, h.isFile p = false) :
    (l.locateIn h (front ++ rest)).value = (l.locateIn h rest).value ∧
      (l.locateIn h (front ++ rest)).questions =
        front.map .probe ++ (l.locateIn h rest).questions := by
  induction front with
  | nil => exact ⟨rfl, rfl⟩
  | cons path front ih =>
    obtain ⟨hpath, hrest⟩ := List.forall_mem_cons.1 hfront
    obtain ⟨hvalue, hquestions⟩ := ih hrest
    obtain ⟨hv, hq⟩ := locateIn_cons_of_not_file l (front ++ rest) hpath
    exact ⟨hv.trans hvalue, by rw [List.cons_append, hq, hquestions]; rfl⟩

/-- A path in the settings is looked at like a place in front of the usual ones. -/
theorem locate_places (l : Locator) (h : Host) :
    (l.locate h).value = (l.locateIn h (l.places h)).value ∧
      (l.locate h).questions = (l.locateIn h (l.places h)).questions := by
  unfold locate places
  cases l.override? with
  | none => exact ⟨rfl, rfl⟩
  | some path =>
    cases hf : h.isFile path with
    | true =>
      obtain ⟨hv, hq⟩ := locateIn_cons_of_file l (l.candidates h) hf
      exact ⟨by simp [hf, hv], by simp [hf, hq]⟩
    | false =>
      obtain ⟨hv, hq⟩ := locateIn_cons_of_not_file l (l.candidates h) hf
      exact ⟨by simp [hf, hv], by simp [hf, hq]⟩

theorem locate_of_file (hplaces : l.places h = front ++ path :: rest)
    (hfront : ∀ p ∈ front, h.isFile p = false) (hf : h.isFile path = true) :
    (l.locate h).value = some path ∧ (l.locate h).questions = (front ++ [path]).map .probe := by
  obtain ⟨hvalue, hquestions⟩ := locate_places l h
  obtain ⟨hv, hq⟩ := locateIn_append l (path :: rest) hfront
  obtain ⟨hvpath, hqpath⟩ := locateIn_cons_of_file l rest hf
  rw [hvalue, hquestions, hplaces, hv, hq, hvpath, hqpath, List.map_append]
  exact ⟨rfl, rfl⟩

/-! ### The search behind them -/

theorem questions_search (l : Locator) (h : Host) :
    (l.search h).questions = [.run l.searchCall] := by
  refine (Traced.questions_bind (h.run l.searchCall) _).trans ?_
  rw [Host.questions_run, Host.value_run]
  cases (h.launch l.searchCall).result with
  | error cause => rfl
  | ok c =>
    dsimp only
    cases c.succeeded with
    | false => rfl
    | true => cases pathIn c.stdoutText <;> rfl

theorem value_search_of_error {cause : String}
    (hr : (h.launch l.searchCall).result = .error cause) : (l.search h).value = none := by
  rw [search_of_error hr]
  rfl

theorem value_search_of_ok (hr : (h.launch l.searchCall).result = .ok c) :
    (l.search h).value = if c.exit = some 0 then pathIn c.stdoutText else none := by
  obtain ⟨after, heq, hvalue, -⟩ := search_of_ok hr
  rw [heq, Traced.value_bind, hvalue, Completion.succeeded]
  simp only [beq_iff_eq]

/-- Output that is not blank has a line to take. -/
theorem pathIn_eq_none_iff {printed : String} :
    pathIn printed = none ↔ Text.isAllBlank printed.toList = true := by
  rw [← Text.trim_eq_nil_iff, pathIn]
  cases htrim : Text.trim printed.toList with
  | nil => exact ⟨fun _ => rfl, fun _ => rfl⟩
  | cons c t =>
    have hc := Text.isBlank_of_trim htrim
    -- The first character is not blank, so it is no line feed and is still there.
    have hline : Text.firstLine (c :: t) = c :: Text.firstLine t :=
      List.takeWhile_cons_of_pos (decide_eq_true fun he => absurd (he ▸ hc) (by decide))
    have hne : Text.trim (c :: Text.firstLine t) ≠ [] := fun h => by
      have hblank := Text.not_isAllBlank_of_mem (List.mem_cons_self (l := Text.firstLine t)) hc
      rw [Text.trim_eq_nil_iff.1 h] at hblank
      cases hblank
    rw [hline]
    simp [hne]

theorem locate_of_no_file (hnone : ∀ p ∈ l.places h, h.isFile p = false) :
    (l.locate h).value = (l.search h).value ∧
      (l.locate h).questions = (l.places h).map .probe ++ [.run l.searchCall] := by
  obtain ⟨hvalue, hquestions⟩ := locate_places l h
  obtain ⟨hv, hq⟩ := locateIn_append l [] hnone
  rw [List.append_nil] at hv hq
  rw [hvalue, hquestions, hv, hq]
  exact ⟨rfl, congrArg _ (questions_search l h)⟩

/-! ### Both together -/

theorem candidates_of_windows (hp : l.platform = .windows) :
    l.candidates h = (h.lookup "ProgramFiles").toList.map (· ++ "\\Hadolint\\hadolint.exe") ++
      ((h.lookup "LocalAppData").toList.map (· ++ "\\Hadolint\\hadolint.exe") ++
        ["C:\\tools\\hadolint\\hadolint.exe"]) := by
  rw [candidates, hp]
  unfold windowsVariables
  cases hfiles : h.lookup "ProgramFiles" <;> cases hdata : h.lookup "LocalAppData" <;>
    simp [hfiles, hdata]

/-- What the search yields: nothing if it cannot be launched, does not exit with 0 or prints blanks
only. -/
theorem value_search_eq_none_iff :
    (l.search h).value = none ↔ h.Fails l.searchCall ∨ ∃ c, (h.launch l.searchCall).result = .ok c ∧
      (c.exit ≠ some 0 ∨ Text.isAllBlank c.stdoutText.toList = true) := by
  cases hr : (h.launch l.searchCall).result with
  | error cause =>
    rw [value_search_of_error hr]
    exact ⟨fun _ => .inl ⟨cause, hr⟩, fun _ => rfl⟩
  | ok c =>
    have hlaunched : ¬ h.Fails l.searchCall := fun ⟨cause, he⟩ => by
      rw [hr] at he
      cases he
    rw [value_search_of_ok hr]
    by_cases hexit : c.exit = some 0 <;> simp [hexit, hlaunched, pathIn_eq_none_iff]

/-- The places are the path in the settings and then those of the platform. The first that is a file
is the linter, and what stands behind it is not asked for. If none is, all have been asked for and
one process is run, the search, whose output names the linter. -/
theorem locate_order (l : Locator) (h : Host) :
    let places := l.override?.toList ++ l.candidates h
    let search : Invocation := ⟨l.platform.searchCommand, ["hadolint"], none⟩
    (l.platform = .macos → l.candidates h =
      ["/usr/local/bin/hadolint", "/opt/homebrew/bin/hadolint"]) ∧
    (l.platform = .unix → l.candidates h =
      ["/usr/local/bin/hadolint", "/usr/bin/hadolint", "/bin/hadolint"]) ∧
    (l.platform = .windows → l.candidates h =
      (h.lookup "ProgramFiles").toList.map (· ++ "\\Hadolint\\hadolint.exe") ++
        ((h.lookup "LocalAppData").toList.map (· ++ "\\Hadolint\\hadolint.exe") ++
          ["C:\\tools\\hadolint\\hadolint.exe"])) ∧
    (∀ front path back, places = front ++ path :: back → (∀ p ∈ front, h.isFile p = false) →
      h.isFile path = true → (l.locate h).value = some path ∧
        (l.locate h).questions = (front ++ [path]).map .probe) ∧
    ((∀ p ∈ places, h.isFile p = false) →
      (l.locate h).questions = places.map .probe ++ [.run search] ∧
      ((l.locate h).value = none ↔ h.Fails search ∨ ∃ c, (h.launch search).result = .ok c ∧
        (c.exit ≠ some 0 ∨ Text.isAllBlank c.stdoutText.toList = true)) ∧
      ∀ c, (h.launch search).result = .ok c → c.exit = some 0 →
        (l.locate h).value = pathIn c.stdoutText) := by
  refine ⟨fun hp => by rw [candidates, hp], fun hp => by rw [candidates, hp],
    candidates_of_windows, fun front path back => locate_of_file, fun hnone => ?_⟩
  obtain ⟨hvalue, hquestions⟩ := locate_of_no_file hnone
  refine ⟨hquestions, ?_, fun c hr hexit => ?_⟩
  · rw [hvalue]
    exact value_search_eq_none_iff
  · rw [hvalue, value_search_of_ok hr, if_pos hexit]

/-- The path in the settings is no file and one variable is not set. -/
theorem exists_locate_order : ∃ (l : Locator) (h : Host), l.platform = .windows ∧
    l.override? = some "D:\\hadolint.exe" ∧ h.lookup "ProgramFiles" = none ∧
    (l.locate h).value = some "C:\\dev\\Hadolint\\hadolint.exe" ∧
    (l.locate h).questions =
      [.probe "D:\\hadolint.exe", .probe "C:\\dev\\Hadolint\\hadolint.exe"] := by
  let l : Locator := ⟨.windows, some "D:\\hadolint.exe"⟩
  let h : Host := {
    isFile := fun path => path ≠ "D:\\hadolint.exe"
    lookup := fun name => if name = "LocalAppData" then some "C:\\dev" else none
    launch := fun _ => ⟨[], .error "no such program"⟩ }
  obtain ⟨-, -, hcandidates, hfound, -⟩ := locate_order l h
  obtain ⟨hvalue, hquestions⟩ := hfound ["D:\\hadolint.exe"] "C:\\dev\\Hadolint\\hadolint.exe"
    ["C:\\tools\\hadolint\\hadolint.exe"] (by rw [hcandidates rfl]; rfl) (by simp [h]) (by simp [h])
  exact ⟨l, h, rfl, rfl, rfl, hvalue, hquestions⟩

end DockLint.Locator

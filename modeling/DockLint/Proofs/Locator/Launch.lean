import DockLint.Machine.Basic
import DockLint.Proofs.Command.Agreement

/-!
# The file that was looked at and the program that is run

A path is looked up in the working directory, a command only if there is a slash in it
(`Tree.program_of_isFile`). The usual places have one, so `launch_chosen`: what a pass and a check
run is the file that was looked at, unless the settings name a file by its bare name. Then the
executable path decides what is run (`not_forall_mem_slash`).
-/

namespace DockLint

/-! ### Commands that are files -/

namespace Machine.Tree

variable {t : Tree} {path : String}

theorem exists_resolve_of_isFile (hf : t.isFile path = true) :
    ∃ names, t.resolve path = .ok names := by
  cases hr : t.resolve path with
  | ok names => exact ⟨names, rfl⟩
  | error f =>
    rw [isFile, node, hr] at hf
    cases hf

/-- What a path can be resolved for: it is not empty, has no NUL in it and no name that is too
long. -/
theorem resolve_bounds {names : List String} (hr : t.resolve path = .ok names) :
    path ≠ "" ∧ path.toList.contains '\x00' = false ∧
      ∀ name ∈ (splitPath path).2, name.utf8ByteSize ≤ maxName := by
  unfold resolve at hr
  dsimp only at hr
  split at hr
  · cases hr
  · rename_i hne
    split at hr
    · cases hr
    · rename_i hnul
      split at hr
      · cases hr
      · rename_i hlong
        refine ⟨hne, Bool.eq_false_iff.2 hnul, fun name hname => ?_⟩
        simp only [not_or, List.any_eq_true, not_exists, not_and, decide_eq_true_eq,
          Nat.not_lt] at hlong
        exact hlong.2 name hname

theorem splitPath_of_not_mem (hslash : '/' ∉ path.toList) : (splitPath path).2 = [path] := by
  rw [splitPath, List.splitOn_eq_singleton hslash, List.map_singleton, String.ofList_toList]

/-- A file is run by its path if there is a slash in it, and is otherwise only a name to look for in
the directories of the executable path. -/
theorem program_of_isFile (hf : t.isFile path = true) {args : List String}
    (hargs : ∀ arg ∈ args, arg.toList.contains '\x00' = false) (dirs : List String) :
    t.program dirs path args =
      if '/' ∈ path.toList then t.load path path args maxLevels
      else t.search path args false dirs := by
  obtain ⟨names, hr⟩ := exists_resolve_of_isFile hf
  obtain ⟨hne, hnul, hnames⟩ := resolve_bounds hr
  have hnone : (path :: args).any (·.toList.contains '\x00') = false := by
    rw [List.any_cons, hnul, Bool.false_or, List.any_eq_false]
    exact fun arg harg => Bool.eq_false_iff.1 (hargs arg harg)
  rw [program, if_neg (Bool.eq_false_iff.1 hnone), if_neg hne]
  by_cases hslash : '/' ∈ path.toList
  · rw [if_pos (List.contains_iff_mem.2 hslash), if_pos hslash]
  · -- Without a slash the path is a single name, and no longer than a name may be.
    have hshort := hnames path (splitPath_of_not_mem hslash ▸ List.mem_singleton_self path)
    rw [if_neg (mt List.contains_iff_mem.1 hslash), if_neg hslash, if_neg (Nat.not_lt.2 hshort)]

end Machine.Tree

/-! ### The linter that was looked at -/

namespace Locator

variable {l : Locator} {h : Host} {path : String}

/-- The path is the first of the known places that is a file. -/
def Chosen (l : Locator) (h : Host) (path : String) : Prop :=
  (l.places h).find? h.isFile = some path

theorem Chosen.isFile (hc : l.Chosen h path) : h.isFile path = true :=
  List.find?_some hc

theorem Chosen.locate (hc : l.Chosen h path) :
    (l.locate h).value = some path ∧ (l.locate h).calls = [] := by
  obtain ⟨looked, hcalls, -, heq⟩ := locate_eq l h
  rw [choose, hc] at heq
  rw [heq, Traced.calls_bind, hcalls]
  exact ⟨rfl, rfl⟩

theorem Chosen.calls_execute (hc : l.Chosen h path) (content : String) (table : LineTable) :
    (Lint.execute l h content table).calls = [Lint.lintCall path content] := by
  obtain ⟨hvalue, hcalls⟩ := hc.locate
  rw [Traced.calls_of_questions_append (Lint.questions_execute l h content table), hcalls, hvalue]
  rfl

theorem Chosen.calls_check (hc : l.Chosen h path) :
    (Health.check l h).calls = [Health.versionCall path] := by
  obtain ⟨hvalue, hcalls⟩ := hc.locate
  rw [Traced.calls_of_questions_append (Health.questions_check l h), hcalls, hvalue]
  rfl

/-- The usual places are paths from the root. -/
theorem mem_slash_of_mem_candidates (hp : l.platform ≠ .windows) (hmem : path ∈ l.candidates h) :
    '/' ∈ path.toList := by
  unfold candidates at hmem
  cases hplatform : l.platform with
  | macos =>
    rw [hplatform] at hmem
    revert path
    simp
  | unix =>
    rw [hplatform] at hmem
    revert path
    simp
  | windows => exact absurd hplatform hp

theorem Chosen.override_of_not_mem (hc : l.Chosen h path) (hp : l.platform ≠ .windows)
    (hslash : '/' ∉ path.toList) : l.override? = some path := by
  rcases List.mem_append.1 (List.mem_of_find?_eq_some hc) with hmem | hmem
  · exact Option.mem_toList.1 hmem
  · exact absurd (mem_slash_of_mem_candidates hp hmem) hslash

theorem chosen_override (ho : l.override? = some path) (hf : h.isFile path = true) :
    l.Chosen h path := by
  rw [Chosen, places, ho]
  exact List.find?_cons_of_pos hf

/-- The files that are looked at are the programs that are run just if the settings name none
without a slash. -/
theorem launch_chosen (l : Locator) (hp : l.platform ≠ .windows) (h : Host) (content : String)
    (table : LineTable) :
    (∀ path, l.Chosen h path →
      (l.locate h).value = some path ∧
      (Lint.execute l h content table).calls =
        [⟨path, ["--format", "json", "-"], some (utf8 content)⟩] ∧
      (Health.check l h).calls = [⟨path, ["--version"], none⟩] ∧
      ('/' ∉ path.toList → l.override? = some path)) ∧
    ((∀ path, l.Chosen h path → '/' ∈ path.toList) ↔
      ∀ path, l.override? = some path → h.isFile path = true → '/' ∈ path.toList) ∧
    (∀ m : Machine, m.host = h → ∀ path, l.Chosen h path →
      ∀ args ∈ [lintArgs, Health.versionArgs],
        m.tree.program m.searchPath path args =
          if '/' ∈ path.toList then m.tree.load path path args Machine.Tree.maxLevels
          else m.tree.search path args false m.searchPath) := by
  refine ⟨fun path hc => ⟨hc.locate.1, hc.calls_execute content table, hc.calls_check,
    hc.override_of_not_mem hp⟩, ⟨fun hall path ho hf => hall path (chosen_override ho hf),
    fun hall path hc => ?_⟩, ?_⟩
  · by_contra hslash
    exact hslash (hall path (hc.override_of_not_mem hp hslash) hc.isFile)
  · rintro m rfl path hc args hargs
    refine Machine.Tree.program_of_isFile hc.isFile ?_ m.searchPath
    obtain rfl | rfl := List.mem_pair.1 hargs
    · decide
    · decide

/-- A linter in the working directory and another on the executable path. -/
def twoLinters : Machine where
  tree.root := .directory [
    ("bin", .directory [("sh", .tool .shell), ("hadolint", .file (utf8 "#!/bin/sh\n") true)]),
    ("work", .directory [("hadolint", .file (utf8 "#!/bin/sh\n") true)])]
  tree.here := ["work"]
  environment := [("PATH", "/bin")]

/-- The settings name the one by a path. -/
theorem exists_launch_chosen : ∃ (l : Locator) (m : Machine), l.platform ≠ .windows ∧
    l.override? = some "./hadolint" ∧ (l.locate m.host).value = some "./hadolint" ∧
    (Health.check l m.host).calls = [⟨"./hadolint", ["--version"], none⟩] ∧
    m.tree.program m.searchPath "./hadolint" Health.versionArgs =
      m.tree.load "./hadolint" "./hadolint" Health.versionArgs Machine.Tree.maxLevels := by
  let l : Locator := ⟨.unix, some "./hadolint"⟩
  have hp : l.platform ≠ .windows := by decide
  have hchosen : l.Chosen twoLinters.host "./hadolint" := rfl
  obtain ⟨hruns, -, hprogram⟩ := launch_chosen l hp twoLinters.host "FROM a" (.ofText "FROM a")
  obtain ⟨hvalue, -, hcheck, -⟩ := hruns _ hchosen
  exact ⟨l, twoLinters, hp, rfl, hvalue, hcheck,
    hprogram twoLinters rfl _ hchosen _ (List.mem_pair.2 (.inr rfl))⟩

/-- The settings name the one by its bare name and the other is run. -/
theorem program_twoLinters : Chosen ⟨.unix, some "hadolint"⟩ twoLinters.host "hadolint" ∧
    twoLinters.tree.load "hadolint" "hadolint" Health.versionArgs Machine.Tree.maxLevels =
      .ok ⟨.shell, "/bin/sh", ["hadolint", "--version"]⟩ ∧
    twoLinters.tree.program twoLinters.searchPath "hadolint" Health.versionArgs =
      .ok ⟨.shell, "/bin/sh", ["/bin/hadolint", "--version"]⟩ := by
  refine ⟨rfl, ?_, ?_⟩
  · decide +kernel
  · decide +kernel

theorem not_forall_mem_slash : ¬ ∀ (l : Locator) (h : Host) (path content : String)
    (table : LineTable), l.platform ≠ .windows → l.Chosen h path →
      (∀ call ∈ (Lint.execute l h content table).calls, '/' ∈ call.program.toList) ∧
      ∀ call ∈ (Health.check l h).calls, '/' ∈ call.program.toList := by
  intro hclaim
  obtain ⟨hchosen, -⟩ := program_twoLinters
  obtain ⟨-, hcheck⟩ := hclaim _ _ _ "FROM a" (.ofText "FROM a") (by decide) hchosen
  rw [hchosen.calls_check] at hcheck
  exact absurd (hcheck _ (List.mem_singleton_self _)) (by decide)

end Locator

end DockLint

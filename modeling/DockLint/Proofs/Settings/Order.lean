import Mathlib.Data.List.Forall2
import DockLint.Proofs.Settings.Schema

/-!
# Which settings are used

Files that are not there are passed over in silence, those that hold no settings with a warning
(`exists_firstUsable_append`). So without a file that is named the project's settings count, or the
user's if the project has none that can be used, or the defaults; and a file that is named counts
alone (`find_settings`).
-/

namespace DockLint.Settings

open Traced (log logAll)

variable {f : Files} {path project : String} {s : Settings} {failure : SettingsFailure}
  {before after rest paths : List String}

/-- The file is there and holds these settings. -/
structure Usable (f : Files) (path : String) (s : Settings) : Prop where
  present : f.present path = true
  holds : Holds f path s

theorem firstUsable_of_absent (h : f.present path = false) :
    firstUsable f (path :: rest) = firstUsable f rest := by
  rw [firstUsable, h]
  rfl

theorem firstUsable_of_refuses (hpresent : f.present path = true) (h : Refuses f path failure) :
    firstUsable f (path :: rest) =
      (log (.settingsIgnored failure) >>= fun _ => firstUsable f rest) := by
  rw [firstUsable, if_pos hpresent, load_of_refuses h]

theorem firstUsable_of_usable (h : Usable f path s) :
    firstUsable f (path :: rest) = (log (.settingsLoaded path) >>= fun _ => pure s) := by
  rw [firstUsable, if_pos h.present, load_of_holds h.holds]

theorem logAll_append (notes more : List Note) :
    logAll (notes ++ more) = (logAll notes >>= fun _ => logAll more) :=
  Traced.ext rfl (List.map_append)

/-- The induction is on the files passed over; there is a warning for each that is there. -/
theorem exists_firstUsable_append (h : ∀ p ∈ before, ∀ s, ¬ Usable f p s) (rest : List String) :
    ∃ failures, List.Forall₂ (Refuses f) (before.filter f.present) failures ∧
      firstUsable f (before ++ rest) =
        (logAll (failures.map .settingsIgnored) >>= fun _ => firstUsable f rest) := by
  induction before with
  | nil => exact ⟨[], .nil, rfl⟩
  | cons path before ih =>
    obtain ⟨hpath, hbefore⟩ := List.forall_mem_cons.1 h
    obtain ⟨failures, hall, heq⟩ := ih hbefore
    cases hpresent : f.present path with
    | false =>
      refine ⟨failures, ?_, ?_⟩
      · rwa [List.filter_cons_of_neg (by simp [hpresent])]
      · rw [List.cons_append, firstUsable_of_absent hpresent, heq]
    | true =>
      obtain ⟨s, hs⟩ | ⟨failure, hfailure⟩ := holds_or_refuses f path
      · exact absurd ⟨hpresent, hs⟩ (hpath s)
      · refine ⟨failure :: failures, ?_, ?_⟩
        · rw [List.filter_cons_of_pos hpresent]
          exact .cons hfailure hall
        · rw [List.cons_append, firstUsable_of_refuses hpresent hfailure, heq]
          rfl

/-- A file that is named for the settings holds them, or the failure to find them in it is the
answer, whatever other files there are. Otherwise the first file that can be used is taken as it
is, and the defaults if there is none. Each file before it that is there is warned about, and
nothing is said of other files. -/
theorem find_settings (f : Files) (project : String) (home : Option String) :
    let files := fileIn project :: home.toList.map fileIn
    (∀ path, (∀ s, find f (some path) project home = pure (.ok s) ↔ Holds f path s) ∧
      (∀ failure, find f (some path) project home = pure (.error failure) ↔
        Refuses f path failure) ∧
      ((∃ s, Holds f path s) ∨ ∃ failure, Refuses f path failure)) ∧
    (∀ before path after s, files = before ++ path :: after →
      (∀ p ∈ before, ∀ s', ¬ Usable f p s') → Usable f path s →
      ∃ failures, List.Forall₂ (Refuses f) (before.filter f.present) failures ∧
        find f none project home = (do
          logAll (failures.map .settingsIgnored ++ [.settingsLoaded path])
          return .ok s)) ∧
    ((∀ p ∈ files, ∀ s, ¬ Usable f p s) →
      ∃ failures, List.Forall₂ (Refuses f) (files.filter f.present) failures ∧
        find f none project home = (do
          logAll (failures.map .settingsIgnored)
          return .ok default)) ∧
    (∀ failure, (Note.settingsIgnored failure).level = .warn) ∧
    ∀ path, (Note.settingsLoaded path).level = .debug := by
  intro files
  have hfind : find f none project home = Except.ok <$> firstUsable f files := rfl
  refine ⟨fun path => ?_, ?_, ?_, fun _ => rfl, fun _ => rfl⟩
  · have hnamed : find f (some path) project home = pure (load f path) := rfl
    have hvalue {a b : Except SettingsFailure Settings} :
        (pure a : Traced (Except SettingsFailure Settings)) = pure b ↔ a = b :=
      ⟨fun h => congrArg Traced.value h, fun h => congrArg pure h⟩
    simp only [hnamed, hvalue, load_eq_ok_iff, load_eq_error_iff, implies_true, true_and]
    exact holds_or_refuses f path
  · intro before path after s hfiles hbefore hpath
    obtain ⟨failures, hall, heq⟩ := exists_firstUsable_append hbefore (path :: after)
    refine ⟨failures, hall, ?_⟩
    rw [hfind, hfiles, heq, firstUsable_of_usable hpath, logAll_append, bind_assoc, map_bind]
    rfl
  · intro hnone
    obtain ⟨failures, hall, heq⟩ := exists_firstUsable_append hnone []
    rw [List.append_nil] at heq
    exact ⟨failures, hall, by rw [hfind, heq]; rfl⟩

/-- The project's file gives a number where a path belongs, and the user's is in order. -/
theorem exists_find_settings : ∃ (f : Files) (failure : SettingsFailure),
    f.read "/work/.hadolint-bridge.toml" = .ok (utf8 "[hadolint]\npath = 42\n") ∧
      Refuses f "/work/.hadolint-bridge.toml" failure ∧
      find f none "/work" (some "/home/dev") = (do
        logAll [.settingsIgnored failure, .settingsLoaded "/home/dev/.hadolint-bridge.toml"]
        return .ok ⟨some "/opt/hadolint"⟩) := by
  let reason := "TOML parse error at line 2, column 8\n  |\n2 | path = 42\n  |        ^^\n" ++
    "invalid type: integer \x6042\x60, expected path string\n"
  let f : Files := {
    present := fun _ => true
    read := fun path =>
      if path = "/work/.hadolint-bridge.toml" then .ok (utf8 "[hadolint]\npath = 42\n")
      else .ok (utf8 "[hadolint]\npath = \"/opt/hadolint\"\n")
    reason := fun _ => reason }
  have hnumber : ofText? "[hadolint]\npath = 42\n" = none := by decide +kernel
  have hpath : ofText? "[hadolint]\npath = \"/opt/hadolint\"\n" = some ⟨some "/opt/hadolint"⟩ := by
    decide +kernel
  have hread : f.read "/work/.hadolint-bridge.toml" = .ok (utf8 "[hadolint]\npath = 42\n") := by
    simp [f]
  have hrefuses : Refuses f "/work/.hadolint-bridge.toml" (.malformed _ reason) :=
    .malformed hread (ofText?_eq_none_iff.1 hnumber)
  have hproject : ∀ p ∈ ["/work/.hadolint-bridge.toml"], ∀ s, ¬ Usable f p s := by
    rintro p hp s ⟨-, hs⟩
    obtain rfl := List.mem_singleton.1 hp
    cases (load_of_holds hs).symm.trans (load_of_refuses hrefuses)
  have huser : Usable f "/home/dev/.hadolint-bridge.toml" ⟨some "/opt/hadolint"⟩ :=
    ⟨rfl, _, by simp [f], ofText?_eq_some_iff.1 hpath⟩
  have hfiles : fileIn "/work" :: (some "/home/dev").toList.map fileIn =
      ["/work/.hadolint-bridge.toml"] ++ "/home/dev/.hadolint-bridge.toml" :: [] := by
    decide +kernel
  obtain ⟨failures, hall, heq⟩ :=
    (find_settings f "/work" (some "/home/dev")).2.1 _ _ _ _ hfiles hproject huser
  obtain ⟨failure, hfailure, rfl⟩ : ∃ failure, Refuses f "/work/.hadolint-bridge.toml" failure ∧
      failures = [failure] := by
    cases hall with
    | cons h hrest =>
      cases hrest
      exact ⟨_, h, rfl⟩
  exact ⟨f, failure, hread, hfailure, heq⟩

end DockLint.Settings

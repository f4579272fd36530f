import DockLint.Proofs.Text.WellFormed
import DockLint.Settings

/-!
# Files and settings

A file can be read as text if its bytes are the encoding of one (`readText_eq_ok_iff`). Settings are
always found unless the file that is named for them is unusable (`find_eq_error_iff`).
-/

namespace DockLint

variable {f : Files} {path text project : String} {named home : Option String}
  {failure : SettingsFailure}

namespace Files

/-- The bytes of the file can be read, and they are those of a text. -/
def HoldsText (f : Files) (path : String) : Prop :=
  ∃ text, f.read path = .ok (utf8 text)

theorem readText_eq_ok_iff : f.readText path = .ok text ↔ f.read path = .ok (utf8 text) := by
  rw [readText]
  cases hread : f.read path with
  | error cause => simp
  | ok bytes =>
    rw [Except.ok.injEq, ← ofUtf8?_eq_some_iff]
    dsimp only
    cases ofUtf8? bytes <;> simp

theorem holdsText_iff : f.HoldsText path ↔ ∃ text, f.readText path = .ok text := by
  simp only [HoldsText, readText_eq_ok_iff]

theorem exists_readText_error (h : ¬ f.HoldsText path) :
    ∃ cause, f.readText path = .error cause := by
  cases hread : f.readText path with
  | error cause => exact ⟨cause, rfl⟩
  | ok text => exact absurd (holdsText_iff.2 ⟨text, hread⟩) h

end Files

namespace Settings

/-- A file is named for the settings, and it cannot be used. -/
def Unusable (f : Files) (named : Option String) (failure : SettingsFailure) : Prop :=
  ∃ path, named = some path ∧ load f path = .error failure

theorem find_eq_error_iff :
    (find f named project home).value = .error failure ↔ Unusable f named failure := by
  cases named with
  | none => simp [find, Unusable]
  | some path => simp [find, Unusable]

theorem find_of_unusable (h : Unusable f named failure) :
    find f named project home = pure (.error failure) := by
  obtain ⟨path, rfl, hload⟩ := h
  rw [find, hload]

end Settings

end DockLint

import Mathlib.Data.List.Forall2
import DockLint.Severity

/-!
# Levels and severities

`IsWord` says which levels count as a word: its letters, each small or capital. A level has the
severity of the word that it is (`ofLevel_eq_error_iff`, `ofLevel_eq_warning_iff`).
-/

namespace DockLint.Severity

/-- The word, with any of its small letters as capitals. No other characters are alike. -/
def IsWord (word level : String) : Prop :=
  List.Forall₂ (fun l c => c = l ∨ c = l.toUpper) word.toList level.toList

instance (word level : String) : Decidable (IsWord word level) :=
  inferInstanceAs (Decidable (List.Forall₂ _ _ _))

theorem toNat_toLower (c : Char) :
    c.toLower.toNat = if 65 ≤ c.toNat ∧ c.toNat ≤ 90 then c.toNat + 32 else c.toNat := by
  have hcond : c.val ≥ 'A'.val ∧ c.val ≤ 'Z'.val ↔ 65 ≤ c.toNat ∧ c.toNat ≤ 90 := Iff.rfl
  unfold Char.toLower
  split
  · rename_i h
    have hsum : (c.val + ('a'.val - 'A'.val)).toNat = (c.toNat + 32) % 2 ^ 32 :=
      UInt32.toNat_add _ _
    have hc := hcond.1 h
    rw [if_pos hc]
    exact hsum.trans (by omega)
  · rename_i h
    rw [if_neg fun hc => h (hcond.2 hc)]

theorem toNat_toUpper (c : Char) :
    c.toUpper.toNat = if 97 ≤ c.toNat ∧ c.toNat ≤ 122 then c.toNat - 32 else c.toNat := by
  have hcond : 'a'.val ≤ c.val ∧ c.val ≤ 'z'.val ↔ 97 ≤ c.toNat ∧ c.toNat ≤ 122 := Iff.rfl
  unfold Char.toUpper
  split
  · rename_i h
    -- The difference of the two letters wraps around.
    have hsum : (c.val + ('A'.val - 'a'.val)).toNat = (c.toNat + (2 ^ 32 - 32)) % 2 ^ 32 :=
      UInt32.toNat_add _ _
    have hc := hcond.1 h
    rw [if_pos hc]
    exact hsum.trans (by omega)
  · rename_i h
    rw [if_neg fun hc => h (hcond.2 hc)]

theorem toLower_eq_iff {c l : Char} (hl : l.isLower = true) :
    c.toLower = l ↔ c = l ∨ c = l.toUpper := by
  have hrange : 97 ≤ l.toNat ∧ l.toNat ≤ 122 := by
    obtain ⟨hlow, hhigh⟩ := Bool.and_eq_true_iff.1 hl
    exact ⟨of_decide_eq_true hlow, of_decide_eq_true hhigh⟩
  rw [← Char.toNat_inj, ← Char.toNat_inj, ← Char.toNat_inj, toNat_toLower, toNat_toUpper]
  split <;> omega

theorem map_toLower_eq_iff {ls cs : List Char} (h : ∀ l ∈ ls, l.isLower = true) :
    cs.map Char.toLower = ls ↔ List.Forall₂ (fun l c => c = l ∨ c = l.toUpper) ls cs := by
  induction ls generalizing cs with
  | nil => rw [List.map_eq_nil_iff, List.forall₂_nil_left_iff]
  | cons l ls ih =>
    obtain ⟨hl, hls⟩ := List.forall_mem_cons.1 h
    cases cs with
    | nil => simp
    | cons c cs => rw [List.map_cons, List.cons.injEq, toLower_eq_iff hl, ih hls, List.forall₂_cons]

theorem sameWord_iff {word level : String} (h : word.toList.all Char.isLower = true) :
    sameWord level word = true ↔ IsWord word level := by
  have hlower := List.all_eq_true.1 h
  have hword : word.toList.map Char.toLower = word.toList :=
    (map_toLower_eq_iff hlower).2 (List.forall₂_same.2 fun l _ => .inl rfl)
  rw [sameWord, beq_iff_eq, hword, map_toLower_eq_iff hlower, IsWord]

theorem ofLevel_eq_error_iff {level : String} : ofLevel level = error ↔ IsWord "error" level := by
  rw [← sameWord_iff (by decide), ofLevel]
  split
  · simp [*]
  · split <;> simp [*]

/-- No level is both words. -/
theorem ofLevel_eq_warning_iff {level : String} :
    ofLevel level = warning ↔ IsWord "warning" level := by
  have hboth (h1 : IsWord "error" level) : ¬ IsWord "warning" level := fun h2 =>
    absurd (h1.length_eq.trans h2.length_eq.symm) (by decide)
  rw [← sameWord_iff (by decide), ← sameWord_iff (by decide)] at hboth
  rw [← sameWord_iff (by decide), ofLevel]
  split
  · rename_i h1
    simp [hboth h1]
  · split <;> simp [*]

/-- A dotted capital or a small letter of another script is not alike. -/
example : ofLevel "ERRor" = error ∧ ofLevel "wArning" = warning ∧ ofLevel "WARNİNG" = info := by
  decide

end DockLint.Severity

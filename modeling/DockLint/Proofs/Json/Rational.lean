import Mathlib.Algebra.Order.Field.Rat
import DockLint.Proofs.Json.Canonical

/-!
# The number that a literal writes

`toRat` is the exact number of a literal, however long it is. A literal is read as a natural number
only if it has digits alone, and then as that one (`value?_eq_natural_iff`): no digit is lost on the
way and nothing wraps around.
-/

namespace DockLint.Json.Literal

/-- The exact number in decimal notation. -/
def toRat (l : Literal) : ℚ :=
  let fraction := l.fraction.getD []
  let mantissa : ℚ := Nat.ofDigitChars 10 (l.whole ++ fraction) 0 / 10 ^ fraction.length
  let scaled := l.exponent.elim mantissa fun e =>
    if e.1 then mantissa / 10 ^ Nat.ofDigitChars 10 e.2 0
    else mantissa * 10 ^ Nat.ofDigitChars 10 e.2 0
  if l.negative then -scaled else scaled

/-- Neither sign nor fraction nor exponent. -/
def DigitsOnly (l : Literal) : Prop :=
  l.negative = false ∧ l.fraction = none ∧ l.exponent = none

instance (l : Literal) : Decidable l.DigitsOnly :=
  inferInstanceAs (Decidable (_ ∧ _))

variable {l : Literal} {ds : List Char} {start n : Nat}

theorem toRat_of_digitsOnly (h : l.DigitsOnly) : l.toRat = Nat.ofDigitChars 10 l.whole 0 := by
  obtain ⟨hsign, hfraction, hexponent⟩ := h
  simp [toRat, hsign, hfraction, hexponent]

/-- Digits are left over just if their number does not fit a word. -/
theorem significand_eq_iff (hstart : start ≤ maxWord) :
    significand start ds = (n, 0) ↔ Nat.ofDigitChars 10 ds start = n ∧ n ≤ maxWord := by
  constructor
  · intro h
    induction ds generalizing start with
    | nil =>
      obtain rfl : start = n := congrArg Prod.fst h
      exact ⟨Nat.ofDigitChars_nil, hstart⟩
    | cons d ds ih =>
      have hnext : 10 * start + (d.toNat - '0'.toNat) = start * 10 + digitValue d := by
        rw [Nat.mul_comm]
        rfl
      rw [significand] at h
      by_cases hfits : start * 10 + digitValue d ≤ maxWord
      · rw [if_pos hfits] at h
        rw [Nat.ofDigitChars_cons, hnext]
        exact ih hfits h
      · rw [if_neg hfits] at h
        cases congrArg Prod.snd h
  · rintro ⟨rfl, h⟩
    exact significand_eq ds start h

theorem word?_eq_natural_iff :
    l.word? = some (.natural n) ↔ l.negative = false ∧ significand 0 l.whole = (n, 0) := by
  unfold word?
  split
  · rename_i m hm
    cases hsign : l.negative
    · simp [hm]
    · simp
  · rename_i hm
    simp only [reduceCtorEq, false_iff, not_and]
    exact fun _ h => hm n h

/-- A literal that is too long for a word, or more than digits, is not read as a natural number. -/
theorem value?_eq_natural_iff :
    l.value? = some (.natural n) ↔ l.DigitsOnly ∧ l.toRat = n ∧ n ≤ maxWord := by
  have hvalue : l.value? = some (.natural n) ↔ l.DigitsOnly ∧ significand 0 l.whole = (n, 0) := by
    unfold value?
    by_cases hplain : l.fraction.isNone ∧ l.exponent.isNone
    · have hdigits : l.DigitsOnly ↔ l.negative = false := by
        rw [Option.isNone_iff_eq_none, Option.isNone_iff_eq_none] at hplain
        exact ⟨fun h => h.1, fun h => ⟨h, hplain⟩⟩
      rw [if_pos hplain, hdigits, ← word?_eq_natural_iff]
      cases l.word? with
      | none => cases l.double? <;> simp
      | some m => rfl
    · have hdigits : ¬ l.DigitsOnly := fun h => hplain (by simp [h.2])
      rw [if_neg hplain]
      cases l.double? <;> simp [hdigits]
  rw [hvalue, significand_eq_iff (Nat.zero_le _)]
  refine and_congr_right fun h => ?_
  rw [toRat_of_digitsOnly h, Nat.cast_inj]

/-- The literal of a number between 1 and `bound`. -/
theorem exists_natural_iff {bound : Nat} (h : bound ≤ maxWord) :
    (∃ k, l.value? = some (.natural k) ∧ 1 ≤ k ∧ k ≤ bound) ↔
      l.DigitsOnly ∧ 1 ≤ l.toRat ∧ l.toRat ≤ bound := by
  simp only [value?_eq_natural_iff]
  constructor
  · rintro ⟨k, ⟨hdigits, hk, -⟩, hpos, hle⟩
    rw [hk, ← Nat.cast_one, Nat.cast_le, Nat.cast_le]
    exact ⟨hdigits, hpos, hle⟩
  · rintro ⟨hdigits, hpos, hle⟩
    have hk := toRat_of_digitsOnly hdigits
    rw [hk, Nat.cast_le] at hle
    rw [hk, ← Nat.cast_one, Nat.cast_le] at hpos
    exact ⟨_, ⟨hdigits, hk, hle.trans h⟩, hpos, hle⟩

end DockLint.Json.Literal

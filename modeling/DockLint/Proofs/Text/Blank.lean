import Mathlib.Data.List.DropRight
import Mathlib.Data.List.TakeWhile
import DockLint.Text.Blank

/-!
# What trimming leaves

A trimmed text begins with a character that is not blank, unless nothing is left of it, and nothing
is left of blank texts only (`trim_eq_nil_iff`). What is left of any other text has no blank at
either end and stands between blanks in it (`trims_trim`), and nothing else in the text is like that
(`Trims.eq_trim`).
-/

namespace DockLint.Text

variable {c : Char} {s t u front back : List Char}

/-- Neither the first nor the last character is blank, and there are such. -/
structure Bare (s : List Char) : Prop where
  first : ∃ c, s.head? = some c ∧ isBlank c = false
  last : ∃ c, s.getLast? = some c ∧ isBlank c = false

/-- `t` is what is left of `s` without the blanks around it. -/
structure Trims (s t : List Char) : Prop where
  bare : Bare t
  around : ∃ front back, s = front ++ (t ++ back) ∧ isAllBlank front = true ∧
    isAllBlank back = true

theorem isAllBlank_iff : isAllBlank s = true ↔ ∀ c ∈ s, isBlank c = true :=
  List.all_eq_true

theorem not_isAllBlank_of_mem (h : c ∈ s) (hc : isBlank c = false) : isAllBlank s = false := by
  rw [← Bool.not_eq_true, isAllBlank_iff]
  intro hall
  rw [hall c h] at hc
  cases hc

theorem trimStart_eq_nil_iff : trimStart s = [] ↔ isAllBlank s = true := by
  rw [trimStart, List.dropWhile_eq_nil_iff, isAllBlank_iff]

theorem isBlank_of_trimStart (h : trimStart s = c :: t) : isBlank c = false := by
  have hhead := List.head?_dropWhile_not isBlank s
  rw [show s.dropWhile isBlank = c :: t from h] at hhead
  exact hhead

theorem trimEnd_prefix (s : List Char) : trimEnd s <+: s := by
  rw [trimEnd, ← List.reverse_suffix, List.reverse_reverse]
  exact List.dropWhile_suffix isBlank

theorem trimEnd_eq_nil_iff : trimEnd s = [] ↔ isAllBlank s = true := by
  rw [trimEnd, List.reverse_eq_nil_iff, List.dropWhile_eq_nil_iff, isAllBlank_iff]
  exact forall_congr' fun c => by rw [List.mem_reverse]

/-- Nothing is left of blank texts only. -/
theorem trim_eq_nil_iff : trim s = [] ↔ isAllBlank s = true := by
  rw [trim, trimEnd_eq_nil_iff]
  cases hs : trimStart s with
  | nil => exact ⟨fun _ => trimStart_eq_nil_iff.1 hs, fun _ => rfl⟩
  | cons c t =>
    rw [not_isAllBlank_of_mem List.mem_cons_self (isBlank_of_trimStart hs)]
    constructor
    · intro h
      cases h
    · intro h
      rw [trimStart_eq_nil_iff.2 h] at hs
      cases hs

/-- A trimmed text begins with a character that is not blank. -/
theorem isBlank_of_trim (h : trim s = c :: t) : isBlank c = false := by
  obtain ⟨u, hu⟩ := trimEnd_prefix (trimStart s)
  rw [show trimEnd (trimStart s) = c :: t from h] at hu
  exact isBlank_of_trimStart hu.symm

/-! ### Dropping from the end -/

theorem rdropWhile_append {p : Char → Bool} (hs : ∀ c, s.getLast? = some c → p c = false)
    (ht : ∀ c ∈ t, p c = true) : (s ++ t).rdropWhile p = s := by
  have hself : s.rdropWhile p = s := List.rdropWhile_eq_self_iff.2 fun hne => by
    rw [hs _ (List.getLast?_eq_some_getLast hne)]
    exact Bool.false_ne_true
  rw [List.rdropWhile, List.reverse_append, List.dropWhile_append_of_pos, ← List.rdropWhile, hself]
  exact fun c hc => ht c (List.mem_reverse.1 hc)

theorem eq_false_of_getLast?_rdropWhile {p : Char → Bool}
    (h : (s.rdropWhile p).getLast? = some c) : p c = false := by
  have hne : s.rdropWhile p ≠ [] := by
    intro hnil
    rw [hnil] at h
    cases h
  rw [List.getLast?_eq_some_getLast hne] at h
  obtain rfl := Option.some.inj h
  exact Bool.not_eq_true _ ▸ List.rdropWhile_last_not p s hne

/-! ### What is left -/

theorem isAllBlank_append :
    isAllBlank (s ++ t) = true ↔ isAllBlank s = true ∧ isAllBlank t = true := by
  rw [isAllBlank, List.all_append, Bool.and_eq_true]
  rfl

theorem trimStart_append (hfront : isAllBlank front = true)
    (ht : ∃ c, t.head? = some c ∧ isBlank c = false) : trimStart (front ++ t) = t := by
  obtain ⟨c, hc, hblank⟩ := ht
  obtain ⟨u, rfl⟩ := List.head?_eq_some_iff.1 hc
  rw [trimStart, List.dropWhile_append_of_pos (isAllBlank_iff.1 hfront),
    List.dropWhile_cons_of_neg (by simp [hblank])]

theorem Trims.eq_trim (h : Trims s t) : t = trim s := by
  obtain ⟨⟨⟨c, hc, hfirst⟩, d, hd, hlast⟩, front, back, rfl, hfront, hback⟩ := h
  rw [trim, trimStart_append hfront ⟨c, by rw [List.head?_append, hc, Option.some_or], hfirst⟩]
  refine (rdropWhile_append (p := isBlank) (fun x hx => ?_) (isAllBlank_iff.1 hback)).symm
  obtain rfl := Option.some.inj (hd.symm.trans hx)
  exact hlast

theorem exists_trimStart (s : List Char) :
    ∃ front, s = front ++ trimStart s ∧ isAllBlank front = true :=
  ⟨s.takeWhile isBlank, List.takeWhile_append_dropWhile.symm,
    isAllBlank_iff.2 fun _ => List.mem_takeWhile_imp⟩

theorem exists_trimEnd (s : List Char) :
    ∃ back, s = trimEnd s ++ back ∧ isAllBlank back = true :=
  ⟨s.rtakeWhile isBlank, List.rdropWhile_append_rtakeWhile.symm,
    isAllBlank_iff.2 fun _ => List.mem_rtakeWhile_imp⟩

/-- Of a text that is not blank something is left. -/
theorem trims_trim (h : isAllBlank s = false) : Trims s (trim s) := by
  have hne : trim s ≠ [] := fun hnil => by
    rw [trim_eq_nil_iff.1 hnil] at h
    cases h
  obtain ⟨front, hs, hfront⟩ := exists_trimStart s
  obtain ⟨back, ht, hback⟩ := exists_trimEnd (trimStart s)
  obtain ⟨c, u, hcons⟩ := List.exists_cons_of_ne_nil hne
  refine ⟨⟨⟨c, by rw [hcons, List.head?_cons], isBlank_of_trim hcons⟩, _,
    List.getLast?_eq_some_getLast hne,
    eq_false_of_getLast?_rdropWhile (s := trimStart s) (List.getLast?_eq_some_getLast hne)⟩,
    front, back, ?_, hfront, hback⟩
  rw [trim, ← ht]
  exact hs

end DockLint.Text

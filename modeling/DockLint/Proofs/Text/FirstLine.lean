import DockLint.Proofs.Text.Blank

/-!
# The first line that is not blank

Every text that is not blank has such a line (`exists_isFirstLine`), and more blank lines in front
of a text or more lines behind it leave it the same (`IsFirstLine.append`). Trimming a text, taking
the first line of what is left and trimming that comes to the same as trimming this line
(`IsFirstLine.trim_firstLine`).
-/

namespace DockLint.Text

variable {s line front back : List Char}

/-- Only blank lines stand in front of the line, and it is not blank itself. -/
structure IsFirstLine (s line : List Char) : Prop where
  notBlank : isAllBlank line = false
  plain : '\n' ∉ line
  around : ∃ front back, s = front ++ (line ++ back) ∧ isAllBlank front = true ∧
    (front = [] ∨ front.getLast? = some '\n') ∧ (back = [] ∨ back.head? = some '\n')

/-- A text as whole lines and a last one that is not closed. -/
theorem exists_lastLine (s : List Char) : ∃ front line, s = front ++ line ∧ '\n' ∉ line ∧
    (front = [] ∨ front.getLast? = some '\n') := by
  refine ⟨s.rdropWhile (· ≠ '\n'), s.rtakeWhile (· ≠ '\n'),
    List.rdropWhile_append_rtakeWhile.symm, fun hmem => ?_, ?_⟩
  · exact absurd (List.mem_rtakeWhile_imp (p := (· ≠ '\n')) hmem) (by decide)
  · rcases hlast : (s.rdropWhile (· ≠ '\n')).getLast? with _ | x
    · exact .inl (List.getLast?_eq_none_iff.1 hlast)
    · have hx := eq_false_of_getLast?_rdropWhile hlast
      exact .inr (congrArg some (Decidable.not_not.1 (of_decide_eq_false hx)))

theorem exists_firstLine (s : List Char) : ∃ back, s = firstLine s ++ back ∧
    '\n' ∉ firstLine s ∧ (back = [] ∨ back.head? = some '\n') := by
  refine ⟨s.dropWhile (· ≠ '\n'), List.takeWhile_append_dropWhile.symm, fun hmem => ?_, ?_⟩
  · exact absurd (List.mem_takeWhile_imp (p := (· ≠ '\n')) hmem) (by decide)
  · rcases hhead : s.dropWhile (· ≠ '\n') with _ | ⟨x, u⟩
    · exact .inl rfl
    · have hx := List.head?_dropWhile_not (· ≠ '\n') s
      rw [hhead] at hx
      exact .inr (congrArg some (Decidable.not_not.1 (of_decide_eq_false hx)))

-- The line begins behind the last line feed among the blanks at the front.
theorem exists_isFirstLine (h : isAllBlank s = false) : ∃ line, IsFirstLine s line := by
  obtain ⟨blanks, hs, hblanks⟩ := exists_trimStart s
  have hne : trimStart s ≠ [] := fun hnil => by
    rw [trimStart_eq_nil_iff.1 hnil] at h
    cases h
  obtain ⟨c, t, hcons⟩ := List.exists_cons_of_ne_nil hne
  have hc := isBlank_of_trimStart hcons
  have hfeed : c ≠ '\n' := by
    rintro rfl
    exact absurd hc (by decide)
  have hmem : c ∈ firstLine (trimStart s) := by
    have hfirst : firstLine (c :: t) = c :: firstLine t :=
      List.takeWhile_cons_of_pos (decide_eq_true hfeed)
    rw [hcons, hfirst]
    exact List.mem_cons_self
  obtain ⟨front, indent, rfl, hindent, hopens⟩ := exists_lastLine blanks
  obtain ⟨back, hback, hplain, hcloses⟩ := exists_firstLine (trimStart s)
  refine ⟨indent ++ firstLine (trimStart s), ?_, ?_, front, back, ?_,
    (isAllBlank_append.1 hblanks).1, hopens, hcloses⟩
  · exact not_isAllBlank_of_mem (List.mem_append_right indent hmem) hc
  · simpa using ⟨hindent, hplain⟩
  · rw [List.append_assoc, ← hback, ← List.append_assoc]
    exact hs

theorem IsFirstLine.append (h : IsFirstLine s line) (hblank : isAllBlank front = true)
    (hfront : front = [] ∨ front.getLast? = some '\n')
    (hback : back = [] ∨ back.head? = some '\n') : IsFirstLine (front ++ (s ++ back)) line := by
  obtain ⟨hnot, hplain, before, after, rfl, hbefore, hopens, hcloses⟩ := h
  refine ⟨hnot, hplain, front ++ before, after ++ back, by simp,
    isAllBlank_append.2 ⟨hblank, hbefore⟩, ?_, ?_⟩
  · rcases hopens with rfl | hopens
    · simpa using hfront
    · exact .inr (by rw [List.getLast?_append, hopens, Option.some_or])
  · rcases hcloses with rfl | hcloses
    · simpa using hback
    · exact .inr (by rw [List.head?_append, hcloses, Option.some_or])

theorem firstLine_eq_self (h : '\n' ∉ s) : firstLine s = s :=
  List.takeWhile_eq_self_iff.2 fun _ hc => decide_eq_true fun he => h (he ▸ hc)

theorem firstLine_append (hs : '\n' ∉ s) (hback : back.head? = some '\n') :
    firstLine (s ++ back) = s := by
  obtain ⟨t, rfl⟩ := List.head?_eq_some_iff.1 hback
  rw [firstLine, List.takeWhile_append_of_pos, List.takeWhile_cons_of_neg (by simp),
    List.append_nil]
  exact fun c hc => decide_eq_true fun he => hs (he ▸ hc)

theorem trim_append (hs : Bare s) (hback : isAllBlank back = true) : trim (s ++ back) = s :=
  (Trims.eq_trim ⟨hs, [], back, rfl, rfl, hback⟩).symm

/-- Behind the line all is blank, and trimming takes it away, or the line feed is still there. -/
theorem IsFirstLine.trim_firstLine (h : IsFirstLine s line) :
    trim (firstLine (trim s)) = trim line := by
  obtain ⟨hnot, hplain, front, back, rfl, hfront, -, hcloses⟩ := h
  obtain ⟨hbare, before, after, hline, hbefore, hafter⟩ := trims_trim hnot
  generalize trim line = w at hbare hline ⊢
  subst hline
  have hfeed : '\n' ∉ w ++ after := fun hmem => hplain (List.mem_append_right before hmem)
  by_cases hblank : isAllBlank back = true
  · have htrim : trim (front ++ (before ++ (w ++ after) ++ back)) = w :=
      (Trims.eq_trim ⟨hbare, front ++ before, after ++ back, by simp,
        isAllBlank_append.2 ⟨hfront, hbefore⟩, isAllBlank_append.2 ⟨hafter, hblank⟩⟩).symm
    rw [htrim, firstLine_eq_self fun hmem => hfeed (List.mem_append_left after hmem)]
    have hnone : isAllBlank [] = true := rfl
    simpa using trim_append hbare hnone
  · obtain ⟨rest, hback, hrest⟩ := exists_trimEnd back
    have hne : trimEnd back ≠ [] := fun hnil => hblank (trimEnd_eq_nil_iff.1 hnil)
    have hhead : (trimEnd back).head? = some '\n' := by
      rcases hcloses with rfl | hcloses
      · exact absurd rfl hblank
      · rw [hback, List.head?_append_of_ne_nil _ hne] at hcloses
        exact hcloses
    have hlast := List.getLast?_eq_some_getLast hne
    have hbare' : Bare (w ++ after ++ trimEnd back) := by
      obtain ⟨c, hc, hfirst⟩ := hbare.first
      refine ⟨⟨c, by simp [hc], hfirst⟩, _, ?_, eq_false_of_getLast?_rdropWhile hlast⟩
      rw [List.getLast?_append, hlast, Option.some_or]
    have htrim : trim (front ++ (before ++ (w ++ after) ++ back)) = w ++ after ++ trimEnd back := by
      refine (Trims.eq_trim ⟨hbare', front ++ before, rest, ?_,
        isAllBlank_append.2 ⟨hfront, hbefore⟩, hrest⟩).symm
      simp only [List.append_assoc]
      rw [← hback]
    rw [htrim, firstLine_append hfeed hhead, trim_append hbare hafter]

end DockLint.Text

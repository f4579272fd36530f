import DockLint.Proofs.Lines.Division

/-!
# The line table of a text

`ofChars_eq_table`: the scan of a text yields the offsets of the lines of its division.
`ofText_division` says so of the one division there is.
-/

namespace DockLint

namespace Division

/-- The extents of the lines, counted from `o` on. -/
def extents (o : Nat) (d : Division) : List Extent :=
  d.lines.mapIdx fun i l => ⟨o + d.offset i, o + d.offset i + l.length⟩

def table (d : Division) : LineTable :=
  ⟨d.extents 0, d.chars.length⟩

variable {d : Division} {p : List Char × Terminator} {i j : Nat} {l : List Char}

@[simp] theorem offset_zero (d : Division) : d.offset 0 = 0 := rfl

@[simp] theorem offset_cons (p : List Char × Terminator) (d : Division) (i : Nat) :
    (d.cons p).offset (i + 1) = (whole p).length + d.offset i := by
  simp [offset, cons]

theorem extents_nil (o : Nat) (last : List Char) :
    extents o ⟨[], last⟩ = [⟨o, o + last.length⟩] := rfl

theorem extents_cons (o : Nat) (p : List Char × Terminator) (d : Division) :
    (d.cons p).extents o = ⟨o, o + p.1.length⟩ :: d.extents (o + (whole p).length) := by
  simp [extents, List.mapIdx_cons, Nat.add_assoc]

theorem getElem?_lines (d : Division) (i : Nat) :
    d.lines[i]? = some l ↔
      (∃ t, d.ended[i]? = some (l, t)) ∨ (i = d.ended.length ∧ l = d.last) := by
  rw [lines, List.getElem?_append]
  split
  · rename_i hi
    rw [List.length_map] at hi
    simp [Nat.ne_of_lt hi]
  · rename_i hi
    rw [List.length_map, Nat.not_lt] at hi
    rw [List.length_map, List.getElem?_singleton, List.getElem?_eq_none hi]
    by_cases h : i = d.ended.length
    · subst h
      simp [eq_comm]
    · have : i - d.ended.length ≠ 0 := by omega
      simp [h, this]

end Division

namespace LineTable

open Division

namespace Scan

theorem foldl_plain {l : List Char} (hl : ∀ c ∈ l, ¬ IsBreak c) (s : Scan) :
    l.foldl step s =
      { s with offset := s.offset + l.length, afterReturn := s.afterReturn && l.isEmpty } := by
  induction l generalizing s with
  | nil => simp
  | cons c l ih =>
    have hc : ¬ IsBreak c := hl c List.mem_cons_self
    have hlf : c ≠ '\n' := fun h => hc (.inr h)
    have hcr : c ≠ '\r' := fun h => hc (.inl h)
    rw [List.foldl_cons, ih fun c' hc' => hl c' (List.mem_cons_of_mem _ hc')]
    simp only [step, hlf, hcr, false_and, or_self, ↓reduceIte, Bool.false_and, List.length_cons,
      List.isEmpty_cons, Bool.and_false, Scan.mk.injEq, true_and, and_true]
    omega

theorem foldl_terminator (t : Terminator) (s : Scan) (h : s.afterReturn = true → t ≠ .lf) :
    t.chars.foldl step s =
      ⟨⟨s.start, s.offset⟩ :: s.ended, s.offset + t.chars.length, s.offset + t.chars.length,
        t = .cr⟩ := by
  cases t with
  | lf =>
    have : s.afterReturn = false := by
      rw [← Bool.not_eq_true]
      exact fun hr => h hr rfl
    simp [Terminator.chars, step, this]
  | crlf => simp [Terminator.chars, step]
  | cr => simp [Terminator.chars, step]

/-- The induction is on the lines of the division. Between two of them the scan is at the start of
a line, and behind a CR no LF comes. -/
theorem finish_foldl {d : Division} (s : Scan) (hs : s.start = s.offset) (hd : d.Proper)
    (ha : s.afterReturn = true → d.chars.head? ≠ some '\n') :
    (d.chars.foldl step s).finish =
      ⟨s.ended.reverse ++ d.extents s.offset, s.offset + d.chars.length⟩ := by
  obtain ⟨ended, last⟩ := d
  induction ended generalizing s with
  | nil =>
    rw [chars_nil, foldl_plain (hd.plain last (List.mem_singleton_self _)), extents_nil]
    simp [finish, hs]
  | cons p ended ih =>
    have hd : (Division.cons p ⟨ended, last⟩).Proper := hd
    have ha : s.afterReturn = true → (Division.cons p ⟨ended, last⟩).chars.head? ≠ some '\n' := ha
    show ((Division.cons p ⟨ended, last⟩).chars.foldl step s).finish =
      ⟨s.ended.reverse ++ (Division.cons p ⟨ended, last⟩).extents s.offset,
        s.offset + (Division.cons p ⟨ended, last⟩).chars.length⟩
    rw [chars_cons] at ha ⊢
    rw [List.foldl_append, whole, List.foldl_append, foldl_plain hd.head_plain, foldl_terminator,
      ih _ rfl hd.tail]
    · rw [extents_cons]
      simp [whole, hs, Nat.add_assoc]
    · intro h
      exact hd.head_apart (by simpa using h)
    · intro h hp
      obtain ⟨hr, hl⟩ : s.afterReturn = true ∧ p.1 = [] := by simpa using h
      apply ha hr
      rw [whole, hl, hp]
      rfl

end Scan

/-- The table of a text lists the lines of its division. -/
theorem ofChars_eq_table {d : Division} (hd : d.Proper) : ofChars d.chars = d.table := by
  have h : Scan.init.afterReturn = true → d.chars.head? ≠ some '\n' := fun h => nomatch h
  rw [ofChars, Scan.finish_foldl Scan.init rfl hd h, table]
  simp [Scan.init]

theorem ofChars_eq (cs : List Char) : ofChars cs = (divide cs).table := by
  rw [← ofChars_eq_table (proper_divide cs), chars_divide]

theorem lines_ofChars (cs : List Char) : (ofChars cs).lines = (divide cs).extents 0 := by
  rw [ofChars_eq, table]

@[simp] theorem size_ofChars (cs : List Char) : (ofChars cs).size = cs.length := by
  rw [ofChars_eq, table, chars_divide]

/-- A text has one division, and its line table holds the offsets of the lines of that. -/
theorem ofText_division (text : String) :
    (∃! d : Division, d.Proper ∧ d.chars = text.toList) ∧
      ∀ d : Division, d.Proper → d.chars = text.toList →
        (ofText text).lines.length = d.ended.length + 1 ∧
        (∀ (i : Nat) (l : List Char), d.lines[i]? = some l →
          (ofText text).lines[i]? = some (Extent.mk (d.offset i) (d.offset i + l.length))) ∧
        (ofText text).size = text.length := by
  refine ⟨division_unique _, fun d hd hc => ?_⟩
  have ht : ofText text = d.table := by rw [ofText, ← hc, ofChars_eq_table hd]
  rw [ht]
  refine ⟨by simp [table, extents], fun i l hl => ?_, ?_⟩
  · simp [table, extents, hl]
  · rw [table, hc, String.length_toList]

end LineTable

end DockLint

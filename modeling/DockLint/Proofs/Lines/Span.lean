import DockLint.Proofs.Lines.Table

/-!
# The spans of the lines of a text

`exists_span_ofText`: a line number has a span if its line has a character. `wholeLine_of_span` and
`stop_lt_start` say which characters a span has and how the spans of two lines lie.
-/

namespace DockLint

namespace LineTable

/-- What must hold for a number to have a span, in any table. -/
theorem span_eq_ok_iff {t : LineTable} {k : Nat} {s : Span} :
    t.span k = .ok s ↔ 1 ≤ k ∧ t.lines[k - 1]? = some ⟨s.start, s.stop⟩ ∧ s.stop ≤ t.size := by
  cases k with
  | zero => simp [span]
  | succ i =>
    rw [Nat.add_sub_cancel, span]
    by_cases hi : i < t.lines.length
    · simp only [hi, ↓reduceDIte, List.get_eq_getElem, List.getElem?_eq_getElem, Option.some.injEq]
      cases he : Span.ofBounds? t.lines[i].start t.lines[i].stop with
      | none =>
        rw [Span.ofBounds?_eq_none_iff] at he
        simp only [reduceCtorEq, false_iff, not_and]
        intro _ h
        rw [h] at he
        exact absurd s.start_lt_stop (Nat.not_lt.2 he)
      | some s' =>
        obtain ⟨h1, h2⟩ := Span.ofBounds?_eq_some_iff.1 he
        have hs : t.lines[i] = ⟨s.start, s.stop⟩ ↔ s' = s := by
          rw [Span.ext_iff, h1, h2]
          exact ⟨fun h => by rw [h]; exact ⟨rfl, rfl⟩, fun ⟨a, b⟩ => by rw [← a, ← b]⟩
        by_cases hf : s'.stop ≤ t.size
        · simp only [Span.fits, hf, decide_true, ↓reduceIte, Except.ok.injEq, hs]
          exact ⟨fun h => ⟨Nat.le_add_left 1 i, h, h ▸ hf⟩, fun h => h.2.1⟩
        · simp only [Span.fits, hf, decide_false, Bool.false_eq_true, ↓reduceIte, reduceCtorEq,
            false_iff, hs]
          rintro ⟨-, rfl, h⟩
          exact hf h
    · simp [hi]

end LineTable

/-- The characters that a span covers are a line: it cannot be made longer on either side. -/
structure WholeLine (cs : List Char) (s : Span) : Prop where
  stop_le : s.stop ≤ cs.length
  plain : ∀ i, s.start ≤ i → i < s.stop → ∃ c, cs[i]? = some c ∧ ¬ IsBreak c
  front : s.start = 0 ∨ ∃ c, cs[s.start - 1]? = some c ∧ IsBreak c
  back : s.stop = cs.length ∨ ∃ c, cs[s.stop]? = some c ∧ IsBreak c

namespace Division

variable {d : Division} {i j : Nat} {l : List Char}

theorem whole_eq_concat (p : List Char × Terminator) :
    ∃ q c, whole p = q ++ [c] ∧ IsBreak c := by
  obtain ⟨l, t⟩ := p
  cases t with
  | lf => exact ⟨l, '\n', rfl, .inr rfl⟩
  | crlf => exact ⟨l ++ ['\r'], '\n', by simp [whole, Terminator.chars], .inr rfl⟩
  | cr => exact ⟨l, '\r', rfl, .inl rfl⟩

theorem chars_eq_cons (t : Terminator) : ∃ c r, t.chars = c :: r ∧ IsBreak c := by
  cases t with
  | lf => exact ⟨'\n', [], rfl, .inr rfl⟩
  | crlf => exact ⟨'\r', ['\n'], rfl, .inl rfl⟩
  | cr => exact ⟨'\r', [], rfl, .inl rfl⟩

theorem flatMap_whole_eq_concat (ps : List (List Char × Terminator)) :
    ps.flatMap whole = [] ∨ ∃ q c, ps.flatMap whole = q ++ [c] ∧ IsBreak c := by
  rcases List.eq_nil_or_concat ps with rfl | ⟨ps, p, rfl⟩
  · exact .inl rfl
  · obtain ⟨q, c, hq, hc⟩ := whole_eq_concat p
    exact .inr ⟨ps.flatMap whole ++ q, c, by simp [hq], hc⟩

/-- A line within its text. -/
theorem chars_eq_of_getElem? (h : d.lines[i]? = some l) :
    ∃ front back, d.chars = front ++ (l ++ back) ∧ front.length = d.offset i ∧
      (front = [] ∨ ∃ q c, front = q ++ [c] ∧ IsBreak c) ∧
      (back = [] ∨ ∃ c r, back = c :: r ∧ IsBreak c) := by
  refine ⟨(d.ended.take i).flatMap whole, ?_⟩
  rcases (getElem?_lines d i).1 h with ⟨t, ht⟩ | ⟨rfl, rfl⟩
  · obtain ⟨hi, hp⟩ := List.getElem?_eq_some_iff.1 ht
    obtain ⟨c, r, hr, hc⟩ := chars_eq_cons t
    refine ⟨t.chars ++ ((d.ended.drop (i + 1)).flatMap whole ++ d.last), ?_, rfl,
      flatMap_whole_eq_concat _, .inr ⟨c, _, by rw [hr]; rfl, hc⟩⟩
    have hsplit : d.ended = d.ended.take i ++ (l, t) :: d.ended.drop (i + 1) := by
      rw [← hp, List.getElem_cons_drop, List.take_append_drop]
    calc d.ended.flatMap whole ++ d.last
      _ = (d.ended.take i ++ (l, t) :: d.ended.drop (i + 1)).flatMap whole ++ d.last := by
        rw [← hsplit]
      _ = _ := by simp [whole]
  · refine ⟨[], ?_, rfl, flatMap_whole_eq_concat _, .inl rfl⟩
    rw [List.take_length, List.append_nil, chars]

theorem offset_succ {p : List Char × Terminator} (h : d.ended[i]? = some p) :
    d.offset (i + 1) = d.offset i + (whole p).length := by
  obtain ⟨hi, rfl⟩ := List.getElem?_eq_some_iff.1 h
  rw [offset, List.take_succ_eq_append_getElem hi, List.flatMap_append, List.length_append]
  simp [offset]

theorem offset_mono (d : Division) (h : i ≤ j) : d.offset i ≤ d.offset j := by
  have hj : d.ended.take j = d.ended.take i ++ (d.ended.take j).drop i :=
    calc d.ended.take j
      _ = (d.ended.take j).take i ++ (d.ended.take j).drop i := (List.take_append_drop ..).symm
      _ = d.ended.take i ++ (d.ended.take j).drop i := by rw [List.take_take, Nat.min_eq_left h]
  rw [offset, offset, hj, List.flatMap_append, List.length_append]
  exact Nat.le_add_right _ _

/-- A line ends before a later one begins. -/
theorem offset_add_length_lt (hij : i < j) (hl : d.lines[i]? = some l) (hj : j < d.lines.length) :
    d.offset i + l.length < d.offset j := by
  rw [length_lines] at hj
  rcases (getElem?_lines d i).1 hl with ⟨t, ht⟩ | ⟨rfl, -⟩
  · obtain ⟨c, r, hr, -⟩ := chars_eq_cons t
    have h := offset_mono d (Nat.succ_le_of_lt hij)
    rw [offset_succ ht, whole, hr, List.length_append, List.length_cons] at h
    exact Nat.lt_of_lt_of_le (Nat.add_lt_add_left (Nat.lt_add_of_pos_right (Nat.succ_pos _)) _) h
  · omega

/-- The spans of a division's table are the lines that have characters. -/
theorem span_table {k : Nat} {s : Span} :
    d.table.span k = .ok s ↔ 1 ≤ k ∧ ∃ l, d.lines[k - 1]? = some l ∧
      s.start = d.offset (k - 1) ∧ s.stop = s.start + l.length := by
  rw [LineTable.span_eq_ok_iff]
  refine and_congr_right fun _ => ⟨fun ⟨h, _⟩ => ?_, fun ⟨l, hl, h1, h2⟩ => ?_⟩
  · rw [table, extents, List.getElem?_mapIdx, Option.map_eq_some_iff] at h
    obtain ⟨l, hl, he⟩ := h
    obtain ⟨h1, h2⟩ := Extent.mk.inj he
    rw [Nat.zero_add] at h1 h2
    exact ⟨l, hl, h1.symm, by rw [← h2, ← h1]⟩
  · obtain ⟨front, back, hc, hf, -⟩ := chars_eq_of_getElem? hl
    refine ⟨?_, ?_⟩
    · rw [table, extents, List.getElem?_mapIdx, hl, h2, h1]
      simp
    · rw [table, h2, h1, hc, ← hf, List.length_append, List.length_append, ← Nat.add_assoc]
      exact Nat.le_add_right _ _

theorem wholeLine_of_span {k : Nat} {s : Span} (hd : d.Proper) (h : d.table.span k = .ok s) :
    WholeLine d.chars s := by
  obtain ⟨-, l, hl, hs, hstop⟩ := span_table.1 h
  obtain ⟨front, back, hc, hf, hfront, hback⟩ := chars_eq_of_getElem? hl
  rw [← hf] at hs
  rw [hs] at hstop
  have hlen : d.chars.length = s.stop + back.length := by
    rw [hc, hstop, List.length_append, List.length_append, Nat.add_assoc]
  refine ⟨hlen ▸ Nat.le_add_right _ _, fun i h1 h2 => ?_, ?_, ?_⟩
  · rw [hc, List.getElem?_append_right (hs ▸ h1), List.getElem?_append_left (by omega),
      List.getElem?_eq_getElem (by omega)]
    exact ⟨_, rfl, hd.plain l (List.mem_of_getElem? hl) _ (List.getElem_mem _)⟩
  · rcases hfront with rfl | ⟨q, c, rfl, hbreak⟩
    · exact .inl hs
    · refine .inr ⟨c, ?_, hbreak⟩
      rw [hc, hs, List.length_append, List.length_singleton, Nat.add_sub_cancel,
        List.append_assoc, List.getElem?_append_right (Nat.le_refl _), Nat.sub_self]
      rfl
  · rcases hback with rfl | ⟨c, r, rfl, hbreak⟩
    · exact .inl hlen.symm
    · refine .inr ⟨c, ?_, hbreak⟩
      rw [hc, hstop, ← List.length_append, ← List.append_assoc,
        List.getElem?_append_right (Nat.le_refl _), Nat.sub_self]
      rfl

theorem stop_lt_start {k m : Nat} {s t : Span} (hkm : k < m) (hs : d.table.span k = .ok s)
    (ht : d.table.span m = .ok t) : s.stop < t.start := by
  obtain ⟨hk, l, hl, h1, h2⟩ := span_table.1 hs
  obtain ⟨hm, l', hl', h3, -⟩ := span_table.1 ht
  rw [h2, h1, h3]
  exact offset_add_length_lt (by omega) hl (List.getElem?_eq_some_iff.1 hl').1

/-- A number has a span if its line is there and not empty. -/
theorem exists_span_table {k : Nat} (hk : 1 ≤ k) :
    (∃ s, d.table.span k = .ok s) ↔ ∃ l, d.lines[k - 1]? = some l ∧ l ≠ [] := by
  refine ⟨fun ⟨s, hs⟩ => ?_, fun ⟨l, hl, hne⟩ => ?_⟩
  · obtain ⟨-, l, hl, -, h2⟩ := span_table.1 hs
    refine ⟨l, hl, ?_⟩
    rintro rfl
    have := s.start_lt_stop
    rw [h2] at this
    exact absurd this (Nat.lt_irrefl _)
  · have hpos := List.length_pos_iff.2 hne
    refine ⟨⟨d.offset (k - 1), d.offset (k - 1) + l.length, by omega⟩, ?_⟩
    exact span_table.2 ⟨hk, l, hl, rfl, rfl⟩

end Division

/-- Line `k` of a text, counted from 1. -/
def IsLine (cs : List Char) (k : Nat) (l : List Char) : Prop :=
  ∃ d : Division, d.Proper ∧ d.chars = cs ∧ 1 ≤ k ∧ d.lines[k - 1]? = some l

namespace LineTable

theorem exists_ofText_eq (text : String) :
    ∃ d : Division, d.Proper ∧ d.chars = text.toList ∧ ofText text = d.table :=
  ⟨divide text.toList, proper_divide _, chars_divide _, ofChars_eq _⟩

theorem exists_span_ofText {text : String} {k : Nat} :
    (∃ s, (ofText text).span k = .ok s) ↔ ∃ l, IsLine text.toList k l ∧ l ≠ [] := by
  obtain ⟨d, hd, hc, ht⟩ := exists_ofText_eq text
  rw [ht]
  constructor
  · rintro ⟨s, hs⟩
    have hk := (Division.span_table.1 hs).1
    obtain ⟨l, hl, hne⟩ := (Division.exists_span_table hk).1 ⟨s, hs⟩
    exact ⟨l, ⟨d, hd, hc, hk, hl⟩, hne⟩
  · rintro ⟨l, ⟨d', hd', hc', hk, hl⟩, hne⟩
    have heq : d' = d := (division_unique _).unique ⟨hd', hc'⟩ ⟨hd, hc⟩
    exact (Division.exists_span_table hk).2 ⟨l, heq ▸ hl, hne⟩

end LineTable

end DockLint

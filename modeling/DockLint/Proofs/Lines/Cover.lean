import DockLint.Proofs.Lines.Join
import DockLint.Proofs.Lines.Lookup

/-!
# Which line holds a character

`exists_extent_of_getElem?`: every character of a text that is no terminator lies within the extent
of a line. Spans of different lines do not meet, so it is one line (`ofText_covers`).
-/

namespace DockLint

theorem Terminator.isBreak_of_mem {t : Terminator} {c : Char} (h : c ∈ t.chars) : IsBreak c := by
  cases t <;> simp_all [chars, IsBreak]

namespace Division

variable {d : Division} {o i : Nat} {c : Char}

/-- The induction is on the lines: a character belongs to the first line, to its terminator or to
what follows. -/
theorem exists_extent_of_getElem? (h : d.chars[i]? = some c) (hc : ¬ IsBreak c) (o : Nat) :
    ∃ x ∈ d.extents o, x.start ≤ o + i ∧ o + i < x.stop := by
  induction d using Division.induction generalizing o i with
  | nil last =>
    obtain ⟨hi, -⟩ := List.getElem?_eq_some_iff.1 h
    exact ⟨_, List.mem_singleton_self _, Nat.le_add_right o i, Nat.add_lt_add_left hi o⟩
  | cons p d ih =>
    rw [chars_cons, whole, List.append_assoc] at h
    rw [extents_cons]
    by_cases hline : i < p.1.length
    · exact ⟨_, List.mem_cons_self, Nat.le_add_right o i, Nat.add_lt_add_left hline o⟩
    · rw [List.getElem?_append_right (Nat.not_lt.1 hline)] at h
      by_cases hterminator : i - p.1.length < p.2.chars.length
      · rw [List.getElem?_append_left hterminator] at h
        exact absurd (Terminator.isBreak_of_mem (List.mem_of_getElem? h)) hc
      · rw [List.getElem?_append_right (Nat.not_lt.1 hterminator)] at h
        obtain ⟨x, hx, hstart, hstop⟩ := ih h (o + (whole p).length)
        refine ⟨x, List.mem_cons_of_mem _ hx, ?_, ?_⟩ <;>
        · rw [whole, List.length_append] at hstart hstop
          omega

end Division

namespace LineTable

open Findings (mapLine)

variable {text : String} {t : LineTable} {k m o : Nat} {c : Char} {s : Span}

/-- The span of line `k` has the character at `o`. -/
def Covers (t : LineTable) (k o : Nat) : Prop :=
  ∃ s, (mapLine t k).value = some s ∧ s.start ≤ o ∧ o < s.stop

theorem Covers.within_count (h : t.Covers k o) : 1 ≤ k ∧ k ≤ t.count := by
  obtain ⟨s, hs, -⟩ := h
  obtain ⟨hk, hcount, -⟩ := value_mapLine_iff.1 hs
  exact ⟨hk, hcount⟩

/-- No line of a text is dropped for its end. -/
theorem value_mapLine_ofText_iff : (mapLine (ofText text) k).value = some s ↔
    1 ≤ k ∧ k ≤ (ofText text).count ∧ (ofText text).lines[k - 1]? = some ⟨s.start, s.stop⟩ := by
  rw [value_mapLine_iff]
  refine and_congr_right fun _ => and_congr_right fun _ => ⟨fun h => h.1, fun h => ⟨h, ?_⟩⟩
  exact stop_le_size (x := ⟨s.start, s.stop⟩) (List.mem_of_getElem? h)

theorem exists_covers (h : text.toList[o]? = some c) (hc : ¬ IsBreak c) :
    ∃ k, (ofText text).Covers k o := by
  rw [← chars_divide text.toList] at h
  obtain ⟨x, hx, hstart, hstop⟩ := Division.exists_extent_of_getElem? h hc 0
  rw [Nat.zero_add] at hstart hstop
  rw [← lines_ofChars] at hx
  obtain ⟨i, hi⟩ := List.getElem?_of_mem hx
  have hcount := (List.getElem?_eq_some_iff.1 hi).1
  refine ⟨i + 1, ⟨x.start, x.stop, Nat.lt_of_le_of_lt hstart hstop⟩, ?_, hstart, hstop⟩
  exact value_mapLine_ofText_iff.2 ⟨Nat.succ_pos i, hcount, hi⟩

/-- A later line begins behind every character of an earlier one. -/
theorem not_covers_of_lt (hkm : k < m) (hk : (ofText text).Covers k o) :
    ¬ (ofText text).Covers m o := by
  rintro ⟨u, hu, hustart, -⟩
  obtain ⟨s, hs, -, hstop⟩ := hk
  obtain ⟨d, -, -, ht⟩ := exists_ofText_eq text
  rw [value_mapLine_eq_some_iff, ht] at hs hu
  have hlt := Division.stop_lt_start hkm hs hu
  omega

theorem covers_unique (hk : (ofText text).Covers k o) (hm : (ofText text).Covers m o) : k = m := by
  rcases Nat.lt_trichotomy k m with hlt | heq | hlt
  · exact absurd hm (not_covers_of_lt hlt hk)
  · exact heq
  · exact absurd hk (not_covers_of_lt hlt hm)

theorem not_isBreak_of_covers (h : text.toList[o]? = some c) (hk : (ofText text).Covers k o) :
    ¬ IsBreak c := by
  obtain ⟨s, hs, hstart, hstop⟩ := hk
  obtain ⟨d, hd, hchars, ht⟩ := exists_ofText_eq text
  rw [value_mapLine_eq_some_iff, ht] at hs
  obtain ⟨c', hc', hplain⟩ := (Division.wholeLine_of_span hd hs).plain o hstart hstop
  rw [hchars, h, Option.some.injEq] at hc'
  exact hc' ▸ hplain

/-- The spans of the lines of a text have each of its characters once, but for the terminators,
which they do not have. A number has a span if it is that of a line that is not empty, and the span
is that line as it is listed. -/
theorem ofText_covers (text : String) :
    let t := ofText text
    (∀ o c, text.toList[o]? = some c →
      (¬ IsBreak c → ∃! k, t.Covers k o) ∧ (IsBreak c → ∀ k, ¬ t.Covers k o)) ∧
    (∀ k o, t.Covers k o → 1 ≤ k ∧ k ≤ t.count) ∧
    ∀ k, ((∃ s, (mapLine t k).value = some s) ↔
        1 ≤ k ∧ k ≤ t.count ∧ ∃ l, IsLine text.toList k l ∧ l ≠ []) ∧
      ∀ s, (mapLine t k).value = some s ↔
        1 ≤ k ∧ k ≤ t.count ∧ t.lines[k - 1]? = some ⟨s.start, s.stop⟩ := by
  refine ⟨fun o c h => ⟨fun hc => ?_, fun hc k hk => not_isBreak_of_covers h hk hc⟩,
    fun k o h => h.within_count, fun k => ⟨?_, fun s => value_mapLine_ofText_iff⟩⟩
  · obtain ⟨k, hk⟩ := exists_covers h hc
    exact ⟨k, hk, fun m hm => covers_unique hm hk⟩
  · constructor
    · rintro ⟨s, hs⟩
      obtain ⟨hk, hcount, -⟩ := value_mapLine_iff.1 hs
      exact ⟨hk, hcount, exists_span_ofText.1 ⟨s, value_mapLine_eq_some_iff.1 hs⟩⟩
    · rintro ⟨-, -, hline⟩
      obtain ⟨s, hs⟩ := exists_span_ofText.2 hline
      exact ⟨s, value_mapLine_eq_some_iff.2 hs⟩

end LineTable

end DockLint

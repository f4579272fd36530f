import DockLint.Proofs.Findings.Records
import DockLint.Proofs.Lines.Span

/-!
# Looking a line up in any table

A table may come from a caller and need not be that of a text. `mapLine_of_any_table` says which
lines have a span all the same, and which are noted. A `Buffer` is asked for the lines of such a
table one at a time and may fail on an index that it does not have; it is never asked for one
(`Buffer.Shows.span_eq`).
-/

namespace DockLint.LineTable

open Findings (mapLine)

variable {t : LineTable} {k i start stop size : Nat} {x : Extent} {s : Span}

/-! ### The ways a look-up ends -/

/-- What becomes of a line that is there, by its bounds. -/
def spanWithin (size number start stop : Nat) : Except Fault Span :=
  match Span.ofBounds? start stop with
  | none => .error .empty
  | some span => if span.fits size then .ok span else .error (.pastEnd number span size)

theorem span_of_outside (h : t.count < k) : t.span k = .error (.outside k t.count) := by
  cases k with
  | zero => exact absurd h (Nat.not_lt_zero _)
  | succ i => exact dif_neg (Nat.not_lt.2 (Nat.le_of_lt_succ h))

theorem span_of_getElem? (hk : 1 ≤ k) (h : t.lines[k - 1]? = some x) :
    t.span k = spanWithin t.size k x.start x.stop := by
  obtain ⟨i, rfl⟩ := Nat.exists_eq_add_of_le' hk
  obtain ⟨hi, rfl⟩ := List.getElem?_eq_some_iff.1 h
  exact dif_pos hi

theorem spanWithin_of_empty (h : stop ≤ start) : spanWithin size k start stop = .error .empty := by
  rw [spanWithin, Span.ofBounds?_eq_none_iff.2 h]

theorem spanWithin_of_fits (h : start < stop) (hsize : stop ≤ size) :
    spanWithin size k start stop = .ok ⟨start, stop, h⟩ := by
  rw [spanWithin, Span.ofBounds?, dif_pos h]
  exact if_pos (decide_eq_true hsize)

theorem spanWithin_of_past (h : start < stop) (hsize : size < stop) :
    spanWithin size k start stop = .error (.pastEnd k ⟨start, stop, h⟩ size) := by
  rw [spanWithin, Span.ofBounds?, dif_pos h]
  exact if_neg fun hfits => Nat.not_le.2 hsize (of_decide_eq_true hfits)

/-! ### Asking line by line -/

/-- A document that shows where its lines start and stop when it is asked. Asking for a line that is
not there may fail. -/
structure Buffer (ε : Type) where
  count : Nat
  size : Nat
  start : Nat → Except ε Nat
  stop : Nat → Except ε Nat

/-- The span of a line, by no more questions than decide on it. -/
def Buffer.span {ε : Type} (b : Buffer ε) (number : Nat) : Except ε (Except Fault Span) :=
  match number with
  | 0 => return .error .zero
  | index + 1 =>
    if index < b.count then do
      let start ← b.start index
      let stop ← b.stop index
      return spanWithin b.size number start stop
    else return .error (.outside number b.count)

/-- The buffer has the lines of the table. What it does with other indices is left open. -/
structure Buffer.Shows {ε : Type} (b : Buffer ε) (t : LineTable) : Prop where
  count : b.count = t.count
  size : b.size = t.size
  start : ∀ i x, t.lines[i]? = some x → b.start i = .ok x.start
  stop : ∀ i x, t.lines[i]? = some x → b.stop i = .ok x.stop

/-- A table as a buffer. -/
def buffer (t : LineTable) : Buffer OutOfBounds where
  count := t.count
  size := t.size
  start i := (t.line i).map Extent.start
  stop i := (t.line i).map Extent.stop

theorem line_of_getElem? (h : t.lines[i]? = some x) : t.line i = .ok x := by
  obtain ⟨hi, rfl⟩ := List.getElem?_eq_some_iff.1 h
  exact dif_pos hi

theorem buffer_shows (t : LineTable) : t.buffer.Shows t where
  count := rfl
  size := rfl
  start _ _ h := congrArg (Except.map Extent.start) (line_of_getElem? h)
  stop _ _ h := congrArg (Except.map Extent.stop) (line_of_getElem? h)

/-- A failure of the buffer would be the answer, so it is not asked for what it does not have. -/
theorem Buffer.Shows.span_eq {ε : Type} {b : Buffer ε} (h : b.Shows t) (k : Nat) :
    b.span k = .ok (t.span k) := by
  cases k with
  | zero => rfl
  | succ i =>
    rw [Buffer.span, h.count]
    by_cases hi : i < t.count
    · have hline : t.lines[i]? = some t.lines[i] := List.getElem?_eq_getElem hi
      rw [if_pos hi, h.start i _ hline, h.stop i _ hline, h.size,
        span_of_getElem? (Nat.succ_pos i) hline]
      rfl
    · rw [if_neg hi, span_of_outside (Nat.lt_succ_of_le (Nat.not_lt.1 hi))]
      rfl

/-! ### Lines with a span and lines without -/

/-- The number names no line, or one that reaches past the end of the document. -/
def Misses (t : LineTable) (k : Nat) : Prop :=
  k = 0 ∨ t.count < k ∨ ∃ x, t.lines[k - 1]? = some x ∧ x.start < x.stop ∧ t.size < x.stop

/-- The line is there and has no characters. -/
def IsEmptyAt (t : LineTable) (k : Nat) : Prop :=
  1 ≤ k ∧ ∃ x, t.lines[k - 1]? = some x ∧ x.stop ≤ x.start

theorem Misses.exists_fault (h : t.Misses k) :
    ∃ fault, t.span k = .error fault ∧ fault ≠ .empty := by
  rcases Nat.eq_zero_or_pos k with rfl | hk
  · exact ⟨.zero, rfl, nofun⟩
  · rcases h with rfl | hcount | ⟨x, hx, hlt, hsize⟩
    · exact absurd hk (Nat.lt_irrefl 0)
    · exact ⟨_, span_of_outside hcount, nofun⟩
    · exact ⟨_, (span_of_getElem? hk hx).trans (spanWithin_of_past hlt hsize), nofun⟩

theorem IsEmptyAt.span_eq (h : t.IsEmptyAt k) : t.span k = .error .empty := by
  obtain ⟨hk, x, hx, hle⟩ := h
  rw [span_of_getElem? hk hx, spanWithin_of_empty hle]

theorem span_cases (t : LineTable) (k : Nat) :
    t.Misses k ∨ t.IsEmptyAt k ∨ ∃ s, t.span k = .ok s := by
  rcases Nat.eq_zero_or_pos k with rfl | hk
  · exact .inl (.inl rfl)
  · cases hx : t.lines[k - 1]? with
    | none =>
      have hcount : t.count ≤ k - 1 := List.getElem?_eq_none_iff.1 hx
      exact .inl (.inr (.inl (by omega)))
    | some x =>
      by_cases hlt : x.start < x.stop
      · by_cases hsize : x.stop ≤ t.size
        · exact .inr (.inr ⟨_, (span_of_getElem? hk hx).trans (spanWithin_of_fits hlt hsize)⟩)
        · exact .inl (.inr (.inr ⟨x, hx, hlt, Nat.not_le.1 hsize⟩))
      · exact .inr (.inl ⟨hk, x, hx, Nat.not_lt.1 hlt⟩)

/-! ### What is noted -/

theorem mapLine_of_ok (h : t.span k = .ok s) : mapLine t k = pure (some s) := by
  rw [mapLine, h]

theorem IsEmptyAt.mapLine_eq (h : t.IsEmptyAt k) : mapLine t k = pure none := by
  rw [mapLine, h.span_eq]
  rfl

theorem Misses.mapLine_eq (h : t.Misses k) :
    ∃ fault, mapLine t k = (Traced.log (.unmappedLine fault) >>= fun _ => pure none) := by
  obtain ⟨fault, hspan, hne⟩ := h.exists_fault
  refine ⟨fault, ?_⟩
  rw [mapLine, hspan]
  cases fault with
  | empty => exact absurd rfl hne
  | _ => rfl

theorem value_mapLine_eq_some_iff : (mapLine t k).value = some s ↔ t.span k = .ok s := by
  rw [Findings.value_mapLine, Outcome.toOption_eq_some_iff]

theorem misses_iff : t.Misses k ↔
    (mapLine t k).value = none ∧ ∃ note, (mapLine t k).notes = [note] ∧ note.level = .debug := by
  constructor
  · intro h
    obtain ⟨fault, heq⟩ := h.mapLine_eq
    rw [heq]
    exact ⟨rfl, _, rfl, rfl⟩
  · rintro ⟨hnone, note, hnotes, -⟩
    obtain h | h | ⟨s, hs⟩ := span_cases t k
    · exact h
    · rw [h.mapLine_eq] at hnotes
      cases hnotes
    · rw [mapLine_of_ok hs] at hnone
      cases hnone

theorem isEmptyAt_iff : t.IsEmptyAt k ↔ (mapLine t k).value = none ∧ (mapLine t k).notes = [] := by
  constructor
  · intro h
    rw [h.mapLine_eq]
    exact ⟨rfl, rfl⟩
  · rintro ⟨hnone, hnotes⟩
    obtain h | h | ⟨s, hs⟩ := span_cases t k
    · obtain ⟨fault, heq⟩ := h.mapLine_eq
      rw [heq] at hnotes
      cases hnotes
    · exact h
    · rw [mapLine_of_ok hs] at hnone
      cases hnone

theorem value_mapLine_iff : (mapLine t k).value = some s ↔
    1 ≤ k ∧ k ≤ t.count ∧ t.lines[k - 1]? = some ⟨s.start, s.stop⟩ ∧ s.stop ≤ t.size := by
  rw [value_mapLine_eq_some_iff, span_eq_ok_iff]
  refine and_congr_right fun hk => ⟨fun h => ⟨?_, h⟩, fun h => h.2⟩
  have hlt := (List.getElem?_eq_some_iff.1 h.1).1
  rw [count]
  omega

theorem exists_value_mapLine_iff : (∃ s, (mapLine t k).value = some s) ↔ 1 ≤ k ∧ k ≤ t.count ∧
    ∃ x, t.lines[k - 1]? = some x ∧ x.start < x.stop ∧ x.stop ≤ t.size := by
  simp only [value_mapLine_iff]
  constructor
  · rintro ⟨s, hk, hcount, hx, hsize⟩
    exact ⟨hk, hcount, _, hx, s.start_lt_stop, hsize⟩
  · rintro ⟨hk, hcount, x, hx, hlt, hsize⟩
    exact ⟨⟨x.start, x.stop, hlt⟩, hk, hcount, hx, hsize⟩

/-- A line of any table has a span if it is there, has characters and ends within the document. What
is asked of the table is there. A number is noted, once, if it names no line or one that ends behind
the document; an empty or reversed line is passed over. -/
theorem mapLine_of_any_table (t : LineTable) (k : Nat) :
    let look := mapLine t k
    (∀ (ε : Type) (b : Buffer ε), b.Shows t → b.span k = .ok (t.span k)) ∧
    t.buffer.span k = .ok (t.span k) ∧
    (∀ s, look.value = some s ↔
      1 ≤ k ∧ k ≤ t.count ∧ t.lines[k - 1]? = some ⟨s.start, s.stop⟩ ∧ s.stop ≤ t.size) ∧
    ((∃ s, look.value = some s) ↔ 1 ≤ k ∧ k ≤ t.count ∧
      ∃ x, t.lines[k - 1]? = some x ∧ x.start < x.stop ∧ x.stop ≤ t.size) ∧
    (∀ s, look.value = some s → 0 < s.length ∧ s.fits t.size = true ∧ look.notes = []) ∧
    (t.Misses k ↔ look.value = none ∧ ∃ note, look.notes = [note] ∧ note.level = .debug) ∧
    (t.IsEmptyAt k ↔ look.value = none ∧ look.notes = []) := by
  refine ⟨fun ε b hb => hb.span_eq k, (buffer_shows t).span_eq k, fun s => value_mapLine_iff,
    exists_value_mapLine_iff, fun s hs => ⟨s.length_pos, ?_, ?_⟩, misses_iff, isEmptyAt_iff⟩
  · exact decide_eq_true (value_mapLine_iff.1 hs).2.2.2
  · rw [mapLine_of_ok (value_mapLine_eq_some_iff.1 hs)]
    rfl

/-- The second line lies within the first, the third is reversed and the fourth reaches too far. -/
example : let t : LineTable := ⟨[⟨0, 9⟩, ⟨3, 5⟩, ⟨7, 2⟩, ⟨8, 11⟩], 10⟩
    t.Misses 4 ∧ t.IsEmptyAt 3 ∧ (mapLine t 2).value = some ⟨3, 5, by decide⟩ := by
  refine ⟨.inr (.inr ⟨⟨8, 11⟩, rfl, by decide, by decide⟩), ?_, rfl⟩
  exact ⟨by decide, ⟨7, 2⟩, rfl, by decide⟩

end DockLint.LineTable

import DockLint.Findings
import DockLint.Proofs.Lines.Span

/-!
# Line tables of joined texts

`divide_append`: the division of two texts one behind the other is that of the first and that of the
second with one line in common, unless a CR is joined to its LF. `ofText_append` says so of line
tables. What is put behind a text leaves all lines alone but its last.
-/

namespace DockLint

/-- The same line with `n` more characters in front of the text. -/
def Extent.shift (n : Nat) (x : Extent) : Extent :=
  ⟨x.start + n, x.stop + n⟩

/-- The first text ends in the CR of a pair that the second one completes. -/
def CutsPair (a b : List Char) : Prop :=
  a.getLast? = some '\r' ∧ b.head? = some '\n'

namespace Division

variable {d e : Division} {p : List Char × Terminator}

/-- A division is a last line with lines put in front of it. -/
@[elab_as_elim]
theorem induction {P : Division → Prop} (nil : ∀ last, P ⟨[], last⟩)
    (cons : ∀ p d, P d → P (d.cons p)) (d : Division) : P d := by
  obtain ⟨ended, last⟩ := d
  induction ended with
  | nil => exact nil last
  | cons p ended ih => exact cons p _ ih

/-- One division behind another. The last line of the one and the first of the other are one. -/
def append (d e : Division) : Division :=
  ⟨d.ended ++ (e.prepend d.last).ended, (e.prepend d.last).last⟩

theorem append_cons (p : List Char × Terminator) (d e : Division) :
    (d.cons p).append e = (d.append e).cons p := rfl

theorem chars_append (d e : Division) : (d.append e).chars = d.chars ++ e.chars := by
  induction d using Division.induction with
  | nil last => exact chars_prepend last e
  | cons p d ih => rw [append_cons, chars_cons, chars_cons, ih, List.append_assoc]

theorem Proper.append (hd : d.Proper) (he : e.Proper) (h : ¬ CutsPair d.chars e.chars) :
    (d.append e).Proper := by
  induction d using Division.induction with
  | nil last => exact he.prepend (hd.plain last (List.mem_singleton_self _))
  | cons p d ih =>
    rw [chars_cons] at h
    rw [append_cons]
    refine (ih hd.tail fun ⟨hlast, hhead⟩ => h ⟨?_, hhead⟩).cons hd.head_plain fun hp => ?_
    · rw [List.getLast?_append, hlast]
      rfl
    · -- Behind the CR of `p` stands the rest of the first text, or the second one if there is none.
      rw [chars_append]
      cases hc : d.chars with
      | nil =>
        intro hhead
        refine h ⟨?_, hhead⟩
        rw [hc, List.append_nil, whole, hp, Terminator.chars, List.getLast?_concat]
      | cons c cs =>
        have hapart := hd.head_apart hp
        rw [hc] at hapart
        exact hapart

/-! ### Offsets -/

theorem extents_add (o n : Nat) (d : Division) :
    d.extents (o + n) = (d.extents o).map (Extent.shift n) := by
  induction d using Division.induction generalizing o with
  | nil last =>
    simp [extents_nil, Extent.shift]
    omega
  | cons p d ih =>
    have ho : o + n + (whole p).length = o + (whole p).length + n := by omega
    rw [extents_cons, extents_cons, ho, ih, List.map_cons, Extent.shift]
    simp only [List.cons.injEq, Extent.mk.injEq, true_and, and_true]
    omega

/-- The first line begins where counting does. -/
theorem exists_extents_eq_cons (o : Nat) (d : Division) :
    ∃ stop rest, d.extents o = ⟨o, stop⟩ :: rest := by
  cases d using Division.induction with
  | nil last => exact ⟨_, _, extents_nil o last⟩
  | cons p d => exact ⟨_, _, extents_cons o p d⟩

theorem extents_prepend {o stop : Nat} {rest : List Extent} (l : List Char)
    (h : e.extents (o + l.length) = ⟨o + l.length, stop⟩ :: rest) :
    (e.prepend l).extents o = ⟨o, stop⟩ :: rest := by
  cases e using Division.induction with
  | nil last =>
    rw [extents_nil] at h
    obtain ⟨hfirst, rfl⟩ := List.cons.inj h
    obtain ⟨-, rfl⟩ := Extent.mk.inj hfirst
    rw [prepend, extents_nil, List.length_append, Nat.add_assoc]
  | cons p e =>
    rw [extents_cons] at h
    obtain ⟨hfirst, rfl⟩ := List.cons.inj h
    obtain ⟨-, rfl⟩ := Extent.mk.inj hfirst
    have hprepend : (e.cons p).prepend l = e.cons (l ++ p.1, p.2) := rfl
    rw [hprepend, extents_cons]
    simp [whole, Nat.add_assoc]

/-- The last line of a division takes in the first of one behind it, whatever that is. -/
theorem exists_extents_append (o : Nat) (d : Division) :
    ∃ front start, d.extents o = front ++ [⟨start, o + d.chars.length⟩] ∧
      ∀ (e : Division) (stop : Nat) (rest : List Extent),
        e.extents (o + d.chars.length) = ⟨o + d.chars.length, stop⟩ :: rest →
          (d.append e).extents o = front ++ ⟨start, stop⟩ :: rest := by
  induction d using Division.induction generalizing o with
  | nil last => exact ⟨[], o, rfl, fun e stop rest h => extents_prepend last h⟩
  | cons p d ih =>
    obtain ⟨front, start, hfront, happend⟩ := ih (o + (whole p).length)
    have ho : o + (d.cons p).chars.length = o + (whole p).length + d.chars.length := by
      rw [chars_cons, List.length_append, Nat.add_assoc]
    refine ⟨⟨o, o + p.1.length⟩ :: front, start, ?_, fun e stop rest h => ?_⟩
    · rw [extents_cons, hfront, ho, List.cons_append]
    · rw [ho] at h
      rw [append_cons, extents_cons, happend e stop rest h, List.cons_append]

theorem stop_le_of_mem_extents {o : Nat} {x : Extent} (h : x ∈ d.extents o) :
    x.stop ≤ o + d.chars.length := by
  induction d using Division.induction generalizing o with
  | nil last =>
    obtain rfl := List.mem_singleton.1 h
    exact Nat.le_refl _
  | cons p d ih =>
    rw [extents_cons] at h
    rw [chars_cons, List.length_append, ← Nat.add_assoc]
    rcases List.mem_cons.1 h with rfl | h
    · simp only [whole, List.length_append]
      omega
    · exact ih h

end Division

open Division

theorem divide_append {a b : List Char} (h : ¬ CutsPair a b) :
    divide (a ++ b) = (divide a).append (divide b) := by
  have hproper : ((divide a).append (divide b)).Proper := by
    refine (proper_divide a).append (proper_divide b) ?_
    rwa [chars_divide, chars_divide]
  have hchars : ((divide a).append (divide b)).chars = a ++ b := by
    rw [chars_append, chars_divide, chars_divide]
  rw [← hchars, divide_chars hproper]

namespace LineTable

variable {t u : LineTable} {i : Nat} {x : Extent} {a b : List Char}

/-- No line of a text reaches past its end. -/
theorem stop_le_size (h : x ∈ (ofChars a).lines) : x.stop ≤ (ofChars a).size := by
  rw [lines_ofChars] at h
  have hstop := stop_le_of_mem_extents h
  rwa [chars_divide, Nat.zero_add, ← size_ofChars] at hstop

/-- A line that lies within the text has a span unless it is empty. -/
theorem span_of_stop_le (h : t.lines[i]? = some x) (hx : x.stop ≤ t.size) :
    t.span (i + 1) = (Span.ofBounds? x.start x.stop).elim (.error .empty) .ok := by
  obtain ⟨hi, rfl⟩ := List.getElem?_eq_some_iff.1 h
  simp only [span, hi, ↓reduceDIte, List.get_eq_getElem]
  cases hs : Span.ofBounds? t.lines[i].start t.lines[i].stop with
  | none => rfl
  | some s =>
    have hfits : s.fits t.size = true := by
      rw [Span.fits, (Span.ofBounds?_eq_some_iff.1 hs).2]
      exact decide_eq_true hx
    exact if_pos hfits

/-- Lines that two tables have in common have the same spans in both. -/
theorem span_eq_of_lines {front rest rest' : List Extent} (ht : t.lines = front ++ rest)
    (hu : u.lines = front ++ rest') (hfront : ∀ x ∈ front, x.stop ≤ t.size)
    (hsize : t.size ≤ u.size) {k : Nat} (hk : k ≤ front.length) : u.span k = t.span k := by
  cases k with
  | zero => rfl
  | succ i =>
    have hx : front[i]? = some front[i] := List.getElem?_eq_getElem hk
    have hstop := hfront front[i] (List.getElem_mem hk)
    rw [span_of_stop_le (x := front[i]) (by rw [ht, List.getElem?_append_left hk, hx]) hstop,
      span_of_stop_le (x := front[i]) (by rw [hu, List.getElem?_append_left hk, hx])
        (Nat.le_trans hstop hsize)]

/-- Texts that make no pair at their seam. -/
theorem ofChars_append (h : ¬ CutsPair a b) :
    ∃ front start stop rest, (ofChars a).lines = front ++ [⟨start, a.length⟩] ∧
      (ofChars b).lines = ⟨0, stop⟩ :: rest ∧
      (ofChars (a ++ b)).lines =
        front ++ ⟨start, stop + a.length⟩ :: rest.map (Extent.shift a.length) := by
  obtain ⟨front, start, hfront, happend⟩ := exists_extents_append 0 (divide a)
  obtain ⟨stop, rest, hrest⟩ := exists_extents_eq_cons 0 (divide b)
  rw [chars_divide, Nat.zero_add] at hfront happend
  refine ⟨front, start, stop, rest, ?_, ?_, ?_⟩
  · rw [lines_ofChars, hfront]
  · rw [lines_ofChars, hrest]
  · rw [lines_ofChars, divide_append h]
    refine happend _ _ _ ?_
    have hshift := extents_add 0 a.length (divide b)
    rw [Nat.zero_add, hrest, List.map_cons, Extent.shift, Nat.zero_add] at hshift
    exact hshift

/-- Texts that make a pair. The CR of the first is a terminator of its own there, and its last line
is empty. -/
theorem ofChars_append_pair (a c : List Char) :
    ∃ front, (ofChars (a ++ ['\r'])).lines = front ++ [⟨a.length + 1, a.length + 1⟩] ∧
      (ofChars (a ++ ['\r', '\n'] ++ c)).lines =
        front ++ (ofChars c).lines.map (Extent.shift (a.length + 2)) := by
  have hcr : ¬ CutsPair a ['\r'] := fun h => absurd h.2 (by decide)
  have hcrlf : ¬ CutsPair a ['\r', '\n'] := fun h => absurd h.2 (by decide)
  have hbehind : ¬ CutsPair (a ++ ['\r', '\n']) c := fun h => by
    have hlast : (a ++ ['\r', '\n']).getLast? = some '\n' := List.getLast?_append
    exact absurd (hlast.symm.trans h.1) (by decide)
  obtain ⟨front, start, hfront, happend⟩ := exists_extents_append 0 (divide a)
  rw [chars_divide, Nat.zero_add] at hfront happend
  have hended {w : List Char} (hw : ¬ CutsPair a w) (hdivide : (divide w).extents a.length =
      [⟨a.length, a.length⟩, ⟨a.length + w.length, a.length + w.length⟩]) :
      (ofChars (a ++ w)).lines =
        (front ++ [⟨start, a.length⟩]) ++ [⟨a.length + w.length, a.length + w.length⟩] := by
    rw [lines_ofChars, divide_append hw, happend _ _ _ hdivide, List.append_assoc]
    rfl
  have h1 := hended hcr rfl
  have h2 := hended hcrlf rfl
  -- The line behind the pair begins at its own offset, so it is the first line of `c`.
  obtain ⟨front', start', stop, rest, ha, hc, hjoin⟩ := ofChars_append hbehind
  obtain ⟨rfl, hlast⟩ := List.append_inj' (h2.symm.trans ha) rfl
  obtain ⟨rfl, -⟩ := Extent.mk.inj (List.cons.inj hlast).1
  refine ⟨_, h1, ?_⟩
  rw [hjoin, hc, List.map_cons, Extent.shift]
  simp

/-- All lines of a text but the last one are lines of every text that begins with it. -/
theorem exists_common_front (a b : List Char) :
    ∃ front last rest, (ofChars a).lines = front ++ [last] ∧
      (ofChars (a ++ b)).lines = front ++ rest := by
  by_cases h : CutsPair a b
  · obtain ⟨ha, hb⟩ := h
    obtain ⟨a, rfl⟩ := List.getLast?_eq_some_iff.1 ha
    obtain ⟨c, rfl⟩ := List.head?_eq_some_iff.1 hb
    obtain ⟨front, hlast, hjoin⟩ := ofChars_append_pair a c
    rw [List.append_assoc] at hjoin ⊢
    exact ⟨front, _, _, hlast, hjoin⟩
  · obtain ⟨front, start, stop, rest, hlast, -, hjoin⟩ := ofChars_append h
    exact ⟨front, _, _, hlast, hjoin⟩

theorem span_append {k : Nat} (a b : List Char) (hk : k < (ofChars a).count) :
    (ofChars (a ++ b)).span k = (ofChars a).span k := by
  obtain ⟨front, last, rest, hlast, hjoin⟩ := exists_common_front a b
  rw [count, hlast, List.length_append, List.length_singleton] at hk
  refine span_eq_of_lines hlast hjoin (fun x hx => ?_) ?_ (Nat.le_of_lt_succ hk)
  · exact stop_le_size (hlast ▸ List.mem_append_left _ hx)
  · rw [size_ofChars, size_ofChars, List.length_append]
    exact Nat.le_add_right _ _

theorem eq_mk {ls : List Extent} {n : Nat} (hlines : t.lines = ls) (hsize : t.size = n) :
    t = ⟨ls, n⟩ := by
  subst hlines hsize
  rfl

/-- The line table of two texts one behind the other. The last line of the first and the first of
the second are one line, unless a CR is joined to its LF: then the empty last line of the first is
gone. Either way the other lines of the first text are as they were. -/
theorem ofText_append (a b : String) :
    (¬ CutsPair a.toList b.toList →
      ∃ front last first rest, (ofText a).lines = front ++ [last] ∧
        (ofText b).lines = first :: rest ∧
        ofText (a ++ b) =
          ⟨front ++ ⟨last.start, first.stop + a.length⟩ :: rest.map (Extent.shift a.length),
            (a ++ b).length⟩) ∧
    (∀ c : String, a.toList.getLast? = some '\r' → b = "\n" ++ c →
      ∃ front last, (ofText a).lines = front ++ [last] ∧ last.start = last.stop ∧
        ofText (a ++ b) =
          ⟨front ++ (ofText c).lines.map (Extent.shift (a.length + 1)), (a ++ b).length⟩) ∧
    ∀ k < (ofText a).count,
      Findings.mapLine (ofText (a ++ b)) k = Findings.mapLine (ofText a) k := by
  have hsize : (ofText (a ++ b)).size = (a ++ b).length := by
    rw [ofText, size_ofChars, String.length_toList]
  refine ⟨fun h => ?_, fun c ha hb => ?_, fun k hk => ?_⟩
  · obtain ⟨front, start, stop, rest, hlast, hfirst, hjoin⟩ := ofChars_append h
    rw [← String.toList_append, String.length_toList] at hjoin
    exact ⟨front, _, _, rest, hlast, hfirst, eq_mk hjoin hsize⟩
  · obtain ⟨a', ha'⟩ := List.getLast?_eq_some_iff.1 ha
    obtain ⟨front, hlast, hjoin⟩ := ofChars_append_pair a' c.toList
    have hlength : a.length = a'.length + 1 := by
      rw [← String.length_toList, ha', List.length_append, List.length_singleton]
    have hchars : (a ++ b).toList = a' ++ ['\r', '\n'] ++ c.toList := by
      rw [String.toList_append, ha', hb, String.toList_append, List.append_assoc, List.append_assoc]
      rfl
    rw [← hchars] at hjoin
    rw [← ha'] at hlast
    exact ⟨front, _, hlast, rfl, eq_mk (by rw [hlength]; exact hjoin) hsize⟩
  · have hspan : (ofText (a ++ b)).span k = (ofText a).span k := by
      rw [ofText, String.toList_append]
      exact span_append a.toList b.toList hk
    rw [Findings.mapLine, hspan, Findings.mapLine]

example : (ofText "a\r").lines = [⟨0, 1⟩, ⟨2, 2⟩] ∧
    (ofText ("a\r" ++ "\nb")).lines = [⟨0, 1⟩, ⟨3, 4⟩] := by
  decide

end LineTable

end DockLint

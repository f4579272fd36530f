import DockLint.Proofs.Lines.Join

/-!
# Texts with one kind of terminator

`unify` turns every terminator into an LF. The lines of a text are those of the unified text, and
their offsets differ by the pairs in front of them (`ofText_unified`). A tool that splits at LF
alone sees the same lines just if no CR stands without its LF.
-/

namespace DockLint

/-! ### Pairs and lone returns -/

/-- CR LF pairs become LF. -/
def joinPairs : List Char → List Char
  | [] => []
  | '\r' :: '\n' :: cs => '\n' :: joinPairs cs
  | c :: cs => c :: joinPairs cs

/-- CR LF pairs and then all other CRs become LF. -/
def unify (cs : List Char) : List Char :=
  (joinPairs cs).map fun c => if c = '\r' then '\n' else c

/-- How many CR LF pairs there are. -/
def pairCount : List Char → Nat
  | [] => 0
  | '\r' :: '\n' :: cs => pairCount cs + 1
  | _ :: cs => pairCount cs

/-- Behind every CR stands an LF. -/
def Paired (cs : List Char) : Prop :=
  ∀ front back, cs = front ++ '\r' :: back → back.head? = some '\n'

/-- A line without the CR at its end. -/
def dropReturn (l : List Char) : List Char :=
  if l.getLast? = some '\r' then l.dropLast else l

/-- The lines that are seen by who splits at LF and drops one CR at the end of a line. -/
def feedLines (cs : List Char) : List (List Char) :=
  (cs.splitOn '\n').map dropReturn

/-- The characters of a line. -/
def Extent.slice (cs : List Char) (x : Extent) : List Char :=
  (cs.drop x.start).take (x.stop - x.start)

variable {cs l : List Char} {c : Char}

theorem length_unify (cs : List Char) : (unify cs).length + pairCount cs = cs.length := by
  rw [unify, List.length_map]
  fun_induction joinPairs cs with
  | case1 => rfl
  | case2 cs ih =>
    simp only [pairCount, List.length_cons]
    omega
  | case3 c cs hpair ih =>
    have hcount : pairCount (c :: cs) = pairCount cs := by
      rw [pairCount]
      exact hpair
    simp only [hcount, List.length_cons]
    omega

theorem paired_cons (hc : c ≠ '\r') : Paired (c :: cs) ↔ Paired cs := by
  constructor
  · intro h front back hcs
    exact h (c :: front) back (congrArg (c :: ·) hcs)
  · intro h front back hcs
    cases front with
    | nil => exact absurd (List.cons.inj hcs).1 hc
    | cons d front => exact h front back (List.cons.inj hcs).2

theorem paired_return : Paired ('\r' :: cs) ↔ cs.head? = some '\n' ∧ Paired cs := by
  constructor
  · intro h
    exact ⟨h [] cs rfl, fun front back hcs => h ('\r' :: front) back (congrArg ('\r' :: ·) hcs)⟩
  · rintro ⟨hhead, h⟩ front back hcs
    cases front with
    | nil => exact (List.cons.inj hcs).2 ▸ hhead
    | cons d front => exact h front back (List.cons.inj hcs).2

theorem dropReturn_concat (l : List Char) : dropReturn (l ++ ['\r']) = l := by
  rw [dropReturn, if_pos List.getLast?_concat, List.dropLast_concat]

theorem dropReturn_plain (h : ∀ c ∈ l, ¬ IsBreak c) : dropReturn l = l :=
  if_neg fun hlast => h '\r' (List.mem_of_getLast? hlast) (.inl rfl)

theorem feedLines_append (a b : List Char) :
    feedLines (a ++ '\n' :: b) = feedLines a ++ feedLines b := by
  rw [feedLines, List.splitOn_append_cons_self, List.map_append]
  rfl

theorem feedLines_of_not_mem (h : '\n' ∉ l) : feedLines l = [dropReturn l] := by
  rw [feedLines, List.splitOn_eq_singleton h]
  rfl

theorem length_feedLines (cs : List Char) : (feedLines cs).length = cs.count '\n' + 1 := by
  rw [feedLines, List.length_map]
  induction cs with
  | nil => rfl
  | cons c cs ih =>
    rw [List.splitOn_cons_eq_if_modifyHead]
    by_cases hc : c = '\n'
    · simp [hc, ih]
    · simp [hc, ih]

namespace Division

variable {d : Division} {p : List Char × Terminator}

/-- The same lines, with an LF behind each. -/
def unified (d : Division) : Division :=
  ⟨d.ended.map fun p => (p.1, .lf), d.last⟩

theorem unified_cons (p : List Char × Terminator) (d : Division) :
    (d.cons p).unified = d.unified.cons (p.1, .lf) := rfl

theorem unified_prepend (l : List Char) (d : Division) :
    (d.prepend l).unified = d.unified.prepend l := by
  cases d using Division.induction <;> rfl

@[simp] theorem lines_unified (d : Division) : d.unified.lines = d.lines := by
  simp [unified, lines]

theorem Proper.unified (h : d.Proper) : d.unified.Proper where
  plain := by
    rw [lines_unified]
    exact h.plain
  apart front l back he := by
    have hmem : (l, Terminator.cr) ∈ d.unified.ended := he ▸ List.mem_append_cons_self
    obtain ⟨p, -, hp⟩ := List.mem_map.1 hmem
    cases congrArg Prod.snd hp

/-- The lines in front of line `i`, as a text of their own. -/
def front (d : Division) (i : Nat) : Division :=
  ⟨d.ended.take i, []⟩

theorem exists_chars_eq_front (d : Division) (i : Nat) :
    ∃ back, d.chars = (d.front i).chars ++ back := by
  refine ⟨(d.ended.drop i).flatMap whole ++ d.last, ?_⟩
  rw [chars, front, chars, List.append_nil, ← List.append_assoc, ← List.flatMap_append,
    List.take_append_drop]

theorem length_chars_front (d : Division) (i : Nat) : (d.front i).chars.length = d.offset i := by
  rw [front, chars, List.append_nil, offset]

theorem Proper.front (h : d.Proper) (i : Nat) : (d.front i).Proper := by
  induction d using Division.induction generalizing i with
  | nil last =>
    rw [Division.front, List.take_nil]
    exact proper_nil (by simp)
  | cons p d ih =>
    cases i with
    | zero => exact proper_nil (by simp)
    | succ i =>
      refine (ih h.tail i).cons (p := p) h.head_plain fun hp => ?_
      -- What stands behind `p` now is the beginning of what stood there.
      obtain ⟨back, hback⟩ := exists_chars_eq_front d i
      have hapart := h.head_apart hp
      rw [hback] at hapart
      cases hc : (d.front i).chars with
      | nil => simp
      | cons c cs =>
        rw [hc] at hapart
        exact hapart

end Division

open Division

/-- The unified text has the same lines. -/
theorem unify_eq (cs : List Char) : unify cs = (divide cs).unified.chars := by
  rw [unify]
  fun_induction divide cs with
  | case1 => rfl
  | case2 cs ih =>
    rw [unified_cons, chars_cons, ← ih]
    simp [joinPairs, whole, Terminator.chars]
  | case3 cs ih =>
    rw [unified_cons, chars_cons, ← ih]
    simp [joinPairs, whole, Terminator.chars]
  | case4 cs hlf ih =>
    rw [unified_cons, chars_cons, ← ih, joinPairs]
    · simp [whole, Terminator.chars]
    · rintro cs' - rfl
      exact hlf cs' rfl
  | case5 c cs hlf hpair hcr ih =>
    rw [unified_prepend, chars_prepend, ← ih, joinPairs, List.map_cons, if_neg hcr]
    · rfl
    · exact hpair

theorem divide_unify (cs : List Char) : divide (unify cs) = (divide cs).unified := by
  rw [unify_eq, divide_chars (proper_divide cs).unified]

theorem paired_iff (cs : List Char) : Paired cs ↔ ∀ p ∈ (divide cs).ended, p.2 ≠ .cr := by
  fun_induction divide cs with
  | case1 => simp [Paired]
  | case2 cs ih => simp [paired_cons, ih, Division.cons]
  | case3 cs ih => simp [paired_return, paired_cons, ih, Division.cons]
  | case4 cs hlf ih =>
    have hhead : cs.head? ≠ some '\n' := fun h => by
      obtain ⟨cs', rfl⟩ := List.head?_eq_some_iff.1 h
      exact hlf cs' rfl
    simp [paired_return, hhead, Division.cons]
  | case5 c cs hlf hpair hcr ih =>
    rw [paired_cons hcr, ih]
    cases divide cs using Division.induction <;> simp [prepend, Division.cons]

namespace Division

variable {d : Division}

/-! ### Line by line -/

theorem not_mem_of_plain {l : List Char} (h : ∀ c ∈ l, ¬ IsBreak c) : '\n' ∉ l :=
  fun hmem => h '\n' hmem (.inr rfl)

/-- Without a lone CR the lines are those that end in LF. -/
theorem feedLines_chars (hd : d.Proper) (h : ∀ p ∈ d.ended, p.2 ≠ .cr) :
    feedLines d.chars = d.lines := by
  induction d using Division.induction with
  | nil last =>
    have hlast := hd.plain last (List.mem_singleton_self _)
    rw [chars_nil, feedLines_of_not_mem (not_mem_of_plain hlast), dropReturn_plain hlast]
    rfl
  | cons p d ih =>
    obtain ⟨hp, hrest⟩ := List.forall_mem_cons.1 h
    have hl := hd.head_plain
    have htail := ih hd.tail hrest
    obtain ⟨l, t⟩ := p
    rw [chars_cons, lines_cons, ← htail]
    cases t with
    | lf =>
      have hwhole : whole (l, .lf) ++ d.chars = l ++ '\n' :: d.chars := by
        simp [whole, Terminator.chars]
      rw [hwhole, feedLines_append, feedLines_of_not_mem (not_mem_of_plain hl), dropReturn_plain hl]
      rfl
    | crlf =>
      have hwhole : whole (l, .crlf) ++ d.chars = (l ++ ['\r']) ++ '\n' :: d.chars := by
        simp [whole, Terminator.chars]
      have hreturn : '\n' ∉ l ++ ['\r'] := by
        simpa using not_mem_of_plain hl
      rw [hwhole, feedLines_append, feedLines_of_not_mem hreturn, dropReturn_concat]
      rfl
    | cr => exact absurd rfl hp

theorem count_chars (hd : d.Proper) : d.chars.count '\n' = d.ended.countP (·.2 ≠ .cr) := by
  induction d using Division.induction with
  | nil last =>
    have hlast := hd.plain last (List.mem_singleton_self _)
    rw [chars_nil, List.count_eq_zero_of_not_mem (not_mem_of_plain hlast)]
    rfl
  | cons p d ih =>
    have hl := List.count_eq_zero_of_not_mem (not_mem_of_plain hd.head_plain)
    obtain ⟨l, t⟩ := p
    rw [chars_cons, List.count_append, ih hd.tail, Division.cons, List.countP_cons, whole,
      List.count_append, hl]
    cases t <;> simp [Terminator.chars, Nat.add_comm]

/-- Whoever splits at LF sees these lines just if none of them ends in a lone CR. -/
theorem feedLines_chars_iff (hd : d.Proper) :
    d.lines = feedLines d.chars ↔ ∀ p ∈ d.ended, p.2 ≠ .cr := by
  refine ⟨fun h => ?_, fun h => (feedLines_chars hd h).symm⟩
  -- A lone CR is a line more.
  have hlength := congrArg List.length h
  rw [length_lines, length_feedLines, count_chars hd] at hlength
  have hall := List.countP_eq_length.1 (Nat.succ.inj hlength).symm
  exact fun p hp => of_decide_eq_true (hall p hp)

/-- Between the LFs of the unified text are the lines. -/
theorem splitOn_unified (hd : d.Proper) : d.unified.chars.splitOn '\n' = d.unified.lines := by
  induction d using Division.induction with
  | nil last =>
    exact List.splitOn_eq_singleton (not_mem_of_plain (hd.plain last (List.mem_singleton_self _)))
  | cons p d ih =>
    have hwhole : whole (p.1, .lf) ++ d.unified.chars = p.1 ++ '\n' :: d.unified.chars := by
      simp [whole, Terminator.chars]
    rw [unified_cons, chars_cons, lines_cons, hwhole,
      List.splitOn_append_cons_self_of_not_mem (not_mem_of_plain hd.head_plain), ih hd.tail]

theorem map_slice_extents (d : Division) : (d.extents 0).map (Extent.slice d.chars) = d.lines := by
  refine List.ext_getElem? fun i => ?_
  rw [List.getElem?_map, extents, List.getElem?_mapIdx, Option.map_map]
  cases hl : d.lines[i]? with
  | none => rfl
  | some l =>
    obtain ⟨front, back, hchars, hfront, -⟩ := chars_eq_of_getElem? hl
    simp [Extent.slice, hchars, ← hfront]

/-- Each pair in front of a line is one character more than the LF in its place. -/
theorem offset_unified (hd : d.Proper) (i : Nat) :
    d.offset i = d.unified.offset i + pairCount (d.chars.take (d.offset i)) := by
  obtain ⟨back, hback⟩ := exists_chars_eq_front d i
  have htake : d.chars.take (d.offset i) = (d.front i).chars := by
    rw [hback, ← length_chars_front, List.take_left]
  have hunified : (d.unified.front i).chars = unify (d.front i).chars := by
    rw [unify_eq, divide_chars (hd.front i)]
    simp [front, unified, List.map_take]
  rw [htake, ← length_chars_front, ← length_chars_front, hunified, length_unify]

end Division

namespace LineTable

/-- The lines that a table finds in a text. -/
def texts (t : LineTable) (cs : List Char) : List (List Char) :=
  t.lines.map (Extent.slice cs)

theorem texts_ofChars (cs : List Char) : (ofChars cs).texts cs = (divide cs).lines := by
  have h := map_slice_extents (divide cs)
  rwa [chars_divide, ← lines_ofChars] at h

theorem exists_getElem?_lines_unify {i : Nat} {x : Extent}
    (h : (ofChars cs).lines[i]? = some x) :
    ∃ y, (ofChars (unify cs)).lines[i]? = some y ∧
      x = Extent.shift (pairCount (cs.take x.start)) y := by
  rw [lines_ofChars, extents, List.getElem?_mapIdx, Option.map_eq_some_iff] at h
  obtain ⟨l, hl, rfl⟩ := h
  have hoffset := offset_unified (proper_divide cs) i
  rw [chars_divide] at hoffset
  refine ⟨⟨(divide cs).unified.offset i, (divide cs).unified.offset i + l.length⟩, ?_, ?_⟩
  · rw [lines_ofChars, divide_unify, extents, List.getElem?_mapIdx, lines_unified, hl]
    simp
  · simp only [Extent.shift, Nat.zero_add, Extent.mk.injEq]
    omega

/-- Which terminators a text has does not count for its lines: they are what the unified text has
between its LFs, and each lies behind as many more characters as there are pairs in front of it. A
tool that knows LF alone, but for a CR at the end of a line, numbers the lines alike just if every
CR has its LF. -/
theorem ofText_unified (text : String) :
    let cs := text.toList
    let unified := String.ofList (unify cs)
    (ofText text).texts cs = unified.toList.splitOn '\n' ∧
      (∀ (i : Nat) (x : Extent), (ofText text).lines[i]? = some x →
        ∃ y, (ofText unified).lines[i]? = some y ∧
          x = Extent.shift (pairCount (cs.take x.start)) y) ∧
      ((ofText text).texts cs = feedLines cs ↔ Paired cs) := by
  intro cs unified
  have htoList : unified.toList = unify cs := String.toList_ofList
  have htexts : (ofText text).texts cs = (divide cs).lines := texts_ofChars cs
  refine ⟨?_, fun i x hx => ?_, ?_⟩
  · rw [htexts, htoList, unify_eq, ← lines_unified]
    exact (splitOn_unified (proper_divide cs)).symm
  · rw [ofText, htoList]
    exact exists_getElem?_lines_unify hx
  · rw [htexts, paired_iff, ← feedLines_chars_iff (proper_divide cs), chars_divide]

/-- A CR in front of a pair is a line of its own here. -/
example : (ofText "a\r\r\nb").count = 3 ∧ feedLines "a\r\r\nb".toList = [['a', '\r'], ['b']] := by
  decide

end LineTable

end DockLint

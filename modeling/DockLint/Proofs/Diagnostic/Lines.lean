import DockLint.Proofs.Findings.Records
import DockLint.Proofs.Text.FirstLine

/-!
# The lines of a text report

A text that ends with a line feed, or is empty, consists of lines with a line feed behind each, in
one way (`IsLines.unique`). A diagnostic is printed as one such line if its message has no line
feed, and as one more for each that it has: nothing in the message is escaped (`isLines_textLine`).
So a report has a line for each diagnostic just if no message has a line feed (`textReport_lines`).
-/

namespace DockLint

namespace Text

variable {s t l o k : List Char} {ls ms : List (List Char)}

/-! ### Lines with a line feed behind each -/

/-- The text is these lines, each with a line feed behind it. -/
structure IsLines (s : List Char) (ls : List (List Char)) : Prop where
  plain : ∀ l ∈ ls, '\n' ∉ l
  text : s = ls.flatMap (· ++ ['\n'])

namespace IsLines

theorem nil : IsLines [] [] :=
  ⟨by simp, rfl⟩

theorem append (hs : IsLines s ls) (ht : IsLines t ms) : IsLines (s ++ t) (ls ++ ms) where
  plain := List.forall_mem_append.2 ⟨hs.plain, ht.plain⟩
  text := by rw [List.flatMap_append, ← hs.text, ← ht.text]

theorem singleton (hl : '\n' ∉ l) : IsLines (l ++ ['\n']) [l] where
  plain := List.forall_mem_singleton.2 hl
  text := (List.flatMap_singleton ..).symm

theorem length_eq (h : IsLines s ls) : ls.length = s.count '\n' := by
  obtain ⟨hplain, rfl⟩ := h
  induction ls with
  | nil => rfl
  | cons l ls ih =>
    obtain ⟨hl, hls⟩ := List.forall_mem_cons.1 hplain
    rw [List.flatMap_cons, List.count_append, List.count_append, List.count_eq_zero_of_not_mem hl,
      ← ih hls, List.length_cons, List.count_singleton_self]
    omega

theorem splitOn_eq (h : IsLines s ls) : s.splitOn '\n' = ls ++ [[]] := by
  obtain ⟨hplain, rfl⟩ := h
  induction ls with
  | nil => exact List.splitOn_nil '\n'
  | cons l ls ih =>
    obtain ⟨hl, hls⟩ := List.forall_mem_cons.1 hplain
    rw [List.flatMap_cons, List.append_assoc, List.singleton_append,
      List.splitOn_append_cons_self_of_not_mem hl, ih hls]
    rfl

theorem unique (h : IsLines s ls) (h' : IsLines s ms) : ms = ls :=
  List.append_cancel_right (h'.splitOn_eq.symm.trans h.splitOn_eq)

end IsLines

/-- Between its line feeds a text has its lines. -/
theorem isLines_splitOn (s : List Char) : IsLines (s ++ ['\n']) (s.splitOn '\n') := by
  induction s with
  | nil => exact .singleton List.not_mem_nil
  | cons c s ih =>
    rw [List.splitOn_cons_eq_if_modifyHead]
    by_cases hc : c = '\n'
    · rw [if_pos (beq_iff_eq.2 hc), hc]
      exact IsLines.append (.singleton List.not_mem_nil) ih
    · rw [if_neg (by simpa using hc)]
      obtain ⟨l, rest, hsplit⟩ := List.exists_cons_of_ne_nil (List.splitOn_ne_nil '\n' s)
      rw [hsplit] at ih ⊢
      obtain ⟨hl, hrest⟩ := List.forall_mem_cons.1 ih.plain
      refine ⟨List.forall_mem_cons.2 ⟨?_, hrest⟩, congrArg (c :: ·) ih.text⟩
      exact List.not_mem_cons_of_ne_of_not_mem (Ne.symm hc) hl

/-! ### Around a text -/

theorem prefix_head_splitOn (ho : '\n' ∉ o) (s : List Char) :
    ∃ first, ((o ++ s).splitOn '\n').head? = some first ∧ o <+: first := by
  induction o with
  | nil => exact ⟨_, List.head?_eq_some_head (List.splitOn_ne_nil '\n' s), List.nil_prefix⟩
  | cons c o ih =>
    obtain ⟨hc, ho⟩ := List.ne_and_not_mem_of_not_mem_cons ho
    obtain ⟨first, hfirst, hprefix⟩ := ih ho
    obtain ⟨rest, hsplit⟩ := List.head?_eq_some_iff.1 hfirst
    refine ⟨c :: first, ?_, (List.prefix_cons_inj c).2 hprefix⟩
    rw [List.cons_append, List.splitOn_cons_eq_if_modifyHead, if_neg (by simpa using Ne.symm hc),
      hsplit]
    rfl

theorem suffix_getLast_splitOn (hk : '\n' ∉ k) (s : List Char) :
    ∃ last, ((s ++ k).splitOn '\n').getLast? = some last ∧ k <:+ last := by
  obtain ⟨front, line, rfl, hline, hfront⟩ := exists_lastLine s
  have hlast : '\n' ∉ line ++ k := by
    simpa using ⟨hline, hk⟩
  refine ⟨line ++ k, ?_, List.suffix_append line k⟩
  rcases hfront with rfl | hfront
  · rw [List.nil_append, List.splitOn_eq_singleton hlast]
    rfl
  · obtain ⟨front, rfl⟩ := List.getLast?_eq_some_iff.1 hfront
    have htext : front ++ ['\n'] ++ line ++ k = front ++ '\n' :: (line ++ k) := by simp
    rw [htext, List.splitOn_append_cons_self, List.splitOn_eq_singleton hlast]
    exact List.getLast?_concat

/-- A text between two others without line feeds: one stands in front of its first line and one
behind its last. -/
theorem exists_ends_splitOn (ho : '\n' ∉ o) (hk : '\n' ∉ k) (s : List Char) :
    ((o ++ s ++ k).splitOn '\n').length = s.count '\n' + 1 ∧
      ∃ first last, ((o ++ s ++ k).splitOn '\n')[0]? = some first ∧
        ((o ++ s ++ k).splitOn '\n')[s.count '\n']? = some last ∧ o <+: first ∧ k <:+ last := by
  have hlength : ((o ++ s ++ k).splitOn '\n').length = s.count '\n' + 1 := by
    rw [(isLines_splitOn _).length_eq, List.count_append, List.count_append, List.count_append,
      List.count_eq_zero_of_not_mem ho, List.count_eq_zero_of_not_mem hk,
      List.count_singleton_self]
    omega
  obtain ⟨first, hfirst, hprefix⟩ := prefix_head_splitOn ho (s ++ k)
  obtain ⟨last, hlast, hsuffix⟩ := suffix_getLast_splitOn hk (o ++ s)
  rw [← List.append_assoc, List.head?_eq_getElem?] at hfirst
  rw [List.getLast?_eq_getElem?, hlength] at hlast
  exact ⟨hlength, first, last, hfirst, hlast, hprefix, hsuffix⟩

end Text

namespace Diagnostic

open Text (IsLines)

variable {path : String} {d : Diagnostic} {ds : List Diagnostic}

/-! ### One diagnostic -/

/-- What stands in front of a message. -/
def opening (path : String) (d : Diagnostic) : String :=
  path ++ ":" ++ toString d.line ++ " " ++ d.severity.name ++ ": "

/-- What stands behind a message. -/
def closing (d : Diagnostic) : String :=
  match d.span with
  | some s => " [" ++ s.text ++ "]"
  | none => ""

/-- The lines of a diagnostic. -/
def linesOf (path : String) (d : Diagnostic) : List (List Char) :=
  ((opening path d).toList ++ d.message.toList ++ (closing d).toList).splitOn '\n'

theorem toList_textLine (path : String) (d : Diagnostic) : (textLine path d).toList =
    (opening path d).toList ++ d.message.toList ++ (closing d).toList ++ ['\n'] := by
  have htext : textLine path d = opening path d ++ d.message ++ closing d ++ "\n" := rfl
  rw [htext, String.toList_append, String.toList_append, String.toList_append]
  rfl

theorem isLines_textLine (path : String) (d : Diagnostic) :
    IsLines (textLine path d).toList (linesOf path d) := by
  rw [toList_textLine]
  exact Text.isLines_splitOn _

theorem not_mem_toDigits (n : Nat) : '\n' ∉ Nat.toDigits 10 n := fun h =>
  absurd (Nat.isDigit_of_mem_toDigits (by decide) (by decide) h) (by decide)

theorem not_mem_opening (hpath : '\n' ∉ path.toList) (d : Diagnostic) :
    '\n' ∉ (opening path d).toList := by
  have hname : '\n' ∉ d.severity.name.toList := by
    cases d.severity <;> decide
  simp [opening, hpath, hname, not_mem_toDigits]

theorem not_mem_closing (d : Diagnostic) : '\n' ∉ (closing d).toList := by
  rw [closing]
  split
  · simp [Span.text, not_mem_toDigits]
  · exact List.not_mem_nil

theorem length_linesOf (hpath : '\n' ∉ path.toList) (d : Diagnostic) :
    (linesOf path d).length = d.message.toList.count '\n' + 1 :=
  (Text.exists_ends_splitOn (not_mem_opening hpath d) (not_mem_closing d) _).1

theorem linesOf_of_plain (hpath : '\n' ∉ path.toList) (hd : '\n' ∉ d.message.toList) :
    linesOf path d = [(opening path d ++ d.message ++ closing d).toList] := by
  have hline : '\n' ∉ (opening path d).toList ++ d.message.toList ++ (closing d).toList := by
    simp [not_mem_opening hpath d, hd, not_mem_closing d]
  rw [linesOf, List.splitOn_eq_singleton hline, String.toList_append, String.toList_append]

/-! ### A report -/

/-- The number of line feeds in the messages. -/
def feeds (ds : List Diagnostic) : Nat :=
  (ds.flatMap fun d => d.message.toList).count '\n'

theorem feeds_eq_zero_iff : feeds ds = 0 ↔ ∀ d ∈ ds, '\n' ∉ d.message.toList := by
  rw [feeds, List.count_eq_zero, List.mem_flatMap]
  simp only [not_exists, not_and]

theorem isLines_textReport (path : String) (ds : List Diagnostic) :
    IsLines (textReport path ds).toList (ds.flatMap (linesOf path)) := by
  rw [textReport, String.toList_join, List.flatMap_map]
  induction ds with
  | nil => exact .nil
  | cons d ds ih => exact (isLines_textLine path d).append ih

theorem length_flatMap_linesOf (hpath : '\n' ∉ path.toList) (ds : List Diagnostic) :
    (ds.flatMap (linesOf path)).length = ds.length + feeds ds := by
  induction ds with
  | nil => rfl
  | cons d ds ih =>
    rw [List.flatMap_cons, List.length_append, length_linesOf hpath, ih, feeds, feeds,
      List.flatMap_cons, List.count_append, List.length_cons]
    omega

/-- Where the lines of a diagnostic stand in a report. -/
theorem getElem?_flatMap_linesOf (hpath : '\n' ∉ path.toList) (front : List Diagnostic)
    (d : Diagnostic) (back : List Diagnostic) {i : Nat} (hi : i < (linesOf path d).length) :
    ((front ++ d :: back).flatMap (linesOf path))[front.length + feeds front + i]? =
      (linesOf path d)[i]? := by
  rw [List.flatMap_append, List.flatMap_cons, ← length_flatMap_linesOf hpath front,
    List.getElem?_append_right (Nat.le_add_right ..), Nat.add_sub_cancel_left,
    List.getElem?_append_left hi]

/-- A report on a path without line feeds has a line for each diagnostic and one more for each line
feed in a message. So there are as many lines as diagnostics just if no message has a line feed, and
then each of them is the line of its diagnostic. In any case the lines of a diagnostic stand behind
those of the diagnostics before it; the first begins with the path, the line number and the
severity, and the last ends with the range, if there is one. -/
theorem textReport_lines (path : String) (ds : List Diagnostic) (hpath : '\n' ∉ path.toList) :
    ∃ lines, IsLines (textReport path ds).toList lines ∧
      (∀ lines', IsLines (textReport path ds).toList lines' → lines' = lines) ∧
      lines.length = ds.length + feeds ds ∧
      (lines.length = ds.length ↔ ∀ d ∈ ds, '\n' ∉ d.message.toList) ∧
      ((∀ d ∈ ds, '\n' ∉ d.message.toList) →
        lines = ds.map fun d => (opening path d ++ d.message ++ closing d).toList) ∧
      ∀ front d back, ds = front ++ d :: back → ∃ first last,
        lines[front.length + feeds front]? = some first ∧
        lines[front.length + feeds front + d.message.toList.count '\n']? = some last ∧
        (path ++ ":" ++ toString d.line ++ " " ++ d.severity.name ++ ": ").toList <+: first ∧
        ∀ s, d.span = some s →
          (" [" ++ toString s.start ++ ".." ++ toString s.stop ++ "]").toList <:+ last := by
  have hlines := isLines_textReport path ds
  have hlength := length_flatMap_linesOf hpath ds
  refine ⟨_, hlines, fun _ h => hlines.unique h, hlength, ?_, fun hplain => ?_,
    fun front d back hds => ?_⟩
  · rw [hlength, ← feeds_eq_zero_iff, Nat.add_eq_left]
  · rw [List.map_eq_flatMap]
    exact List.flatMap_congr fun d hd => linesOf_of_plain hpath (hplain d hd)
  · subst hds
    obtain ⟨-, first, last, hfirst, hlast, hopening, hclosing⟩ :=
      Text.exists_ends_splitOn (not_mem_opening hpath d) (not_mem_closing d) d.message.toList
    have hcount := length_linesOf hpath d
    refine ⟨first, last, ?_, ?_, hopening, fun s hs => ?_⟩
    · exact (getElem?_flatMap_linesOf hpath front d back (by omega)).trans hfirst
    · exact (getElem?_flatMap_linesOf hpath front d back (by omega)).trans hlast
    · have htext : closing d = " [" ++ toString s.start ++ ".." ++ toString s.stop ++ "]" := by
        rw [closing, hs]
        simp only [Span.text, String.append_assoc]
      rw [← htext]
      exact hclosing

/-- A message of two lines is on two lines, with the range behind the second. -/
theorem exists_textReport_lines : '\n' ∉ "Dockerfile".toList ∧
    ∃ lines, IsLines (textReport "Dockerfile" [⟨1, "a\nb", .warning, some ⟨0, 6, by decide⟩⟩,
        ⟨2, "c", .error, none⟩]).toList lines ∧
      lines.length = 3 ∧
      (∃ l, lines[0]? = some l ∧ "Dockerfile:1 warning: ".toList <+: l) ∧
      (∃ l, lines[1]? = some l ∧ " [0..6]".toList <:+ l) ∧
      ∃ l, lines[2]? = some l ∧ "Dockerfile:2 error: ".toList <+: l := by
  let d : Diagnostic := ⟨1, "a\nb", .warning, some ⟨0, 6, by decide⟩⟩
  let d' : Diagnostic := ⟨2, "c", .error, none⟩
  have hpath : '\n' ∉ "Dockerfile".toList := by decide
  have hcounts : feeds [d, d'] = 1 ∧ feeds [d] = 1 ∧ d.message.toList.count '\n' = 1 := by
    decide +kernel
  have htexts : opening "Dockerfile" d = "Dockerfile:1 warning: " ∧
      opening "Dockerfile" d' = "Dockerfile:2 error: " ∧
      " [" ++ toString 0 ++ ".." ++ toString 6 ++ "]" = " [0..6]" := by
    decide +kernel
  obtain ⟨lines, hlines, -, hlength, -, -, hends⟩ := textReport_lines "Dockerfile" [d, d'] hpath
  obtain ⟨first, last, hfirst, hlast, hopening, hclosing⟩ := hends [] d [d'] rfl
  obtain ⟨third, -, hthird, -, hopening', -⟩ := hends [d] d' [] rfl
  have hrange := hclosing _ rfl
  rw [hcounts.1] at hlength
  rw [hcounts.2.2] at hlast
  rw [hcounts.2.1] at hthird
  rw [← opening, htexts.1] at hopening
  rw [← opening, htexts.2.1] at hopening'
  rw [htexts.2.2] at hrange
  exact ⟨hpath, lines, hlines, hlength, ⟨first, hfirst, hopening⟩, ⟨last, hlast, hrange⟩,
    third, hthird, hopening'⟩

/-- Not every report on findings that the linter can report has a line for each. -/
theorem not_forall_textReport_lines :
    ¬ ∀ (path : String) (ds : List Diagnostic), '\n' ∉ path.toList →
      (∀ d ∈ ds, d.message ≠ "" ∧ ∃ table v, (Findings.ofElement table v).value = .ok d) →
      ∃ lines, IsLines (textReport path ds).toList lines ∧ lines.length = ds.length := by
  intro h
  let i : Issue := ⟨1, "first\nDockerfile:2 error: second", "warning"⟩
  let d : Diagnostic := ⟨i.line, i.message, .warning, some ⟨0, 6, by decide⟩⟩
  have hissue : Issue.decode (.arr [.num (.natural 1), .str i.message, .str i.level]) = .ok i :=
    Issue.decode_eq_ok_iff.2 ⟨rfl, by decide, by decide, by decide⟩
  have hrecord : d = ⟨i.line, i.message, i.severity,
      ((LineTable.ofText "FROM a\n").span i.line).toOption⟩ := by
    decide +kernel
  obtain ⟨lines, hlines, hlength⟩ := h "Dockerfile" [d] (by decide) (List.forall_mem_singleton.2
    ⟨by decide, _, _, Findings.value_ofElement_eq_ok_iff.2 ⟨i, hissue, hrecord⟩⟩)
  have hcount : (textReport "Dockerfile" [d]).toList.count '\n' = 2 := by decide +kernel
  rw [hlines.length_eq, hcount] at hlength
  exact absurd hlength (by decide)

end Diagnostic

end DockLint

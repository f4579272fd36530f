import DockLint.Proofs.Locator.Order
import DockLint.Proofs.Text.FirstLine
import DockLint.Proofs.Text.Seam

/-!
# What a search finds

A search that is answered finds the first line that is not blank, without the blanks around it
(`pathIn_of_isFirstLine`). Blank lines in front of that line and all lines behind it make no
difference, whatever bytes they are made of (`search_first_line`).
-/

namespace DockLint.Locator

open Text Text.Utf8

variable {l : Locator} {h h' : Host} {c c' : Completion} {path : String} {line : List Char}
  {bytes front back : List UInt8}

theorem pathIn_of_isFirstLine {printed : String} (h : IsFirstLine printed.toList line) :
    pathIn printed = some (String.ofList (trim line)) := by
  have hne : trim line ≠ [] := fun hnil => by
    have hblank := h.notBlank
    rw [trim_eq_nil_iff.1 hnil] at hblank
    cases hblank
  rw [pathIn, h.trim_firstLine]
  exact if_neg (by simpa using hne)

theorem pathIn_eq_some_iff {printed : String} : pathIn printed = some path ↔
    ∃ line, IsFirstLine printed.toList line ∧ Trims line path.toList := by
  constructor
  · intro hpath
    have hnot : isAllBlank printed.toList = false := by
      rw [← Bool.not_eq_true, ← pathIn_eq_none_iff, hpath]
      exact Option.some_ne_none path
    obtain ⟨line, hline⟩ := exists_isFirstLine hnot
    rw [pathIn_of_isFirstLine hline, Option.some_inj] at hpath
    refine ⟨line, hline, ?_⟩
    rw [← hpath, String.toList_ofList]
    exact trims_trim hline.notBlank
  · rintro ⟨line, hline, htrims⟩
    rw [pathIn_of_isFirstLine hline, ← htrims.eq_trim, String.ofList_toList]

/-! ### Lines of bytes -/

theorem decodeLossy_lineFeed (a bytes : List UInt8) :
    decodeLossy (a ++ 0x0A :: bytes) = decodeLossy a ++ '\n' :: decodeLossy bytes := by
  rw [decodeLossy_append_cons fun h => absurd h.1 (by decide), decodeLossy_cons (by decide)]
  rfl

/-- Whole lines that hold nothing but blanks. -/
structure BlankLines (bytes : List UInt8) : Prop where
  blank : isAllBlank (decodeLossy bytes) = true
  closed : bytes = [] ∨ bytes.getLast? = some 0x0A

theorem BlankLines.decodeLossy_append (hfront : BlankLines front) (bytes : List UInt8) :
    decodeLossy (front ++ bytes) = decodeLossy front ++ decodeLossy bytes ∧
      (decodeLossy front = [] ∨ (decodeLossy front).getLast? = some '\n') := by
  rcases hfront.closed with rfl | hlast
  · exact ⟨rfl, .inl rfl⟩
  · obtain ⟨lines, rfl⟩ := List.getLast?_eq_some_iff.1 hlast
    rw [List.append_assoc, List.singleton_append, decodeLossy_lineFeed, decodeLossy_lineFeed,
      decodeLossy_nil]
    exact ⟨by simp, .inr (by simp)⟩

/-- Nothing, or a line feed and then anything. -/
def MoreLines (bytes : List UInt8) : Prop :=
  bytes = [] ∨ bytes.head? = some 0x0A

theorem MoreLines.decodeLossy_append (hback : MoreLines back) (bytes : List UInt8) :
    decodeLossy (bytes ++ back) = decodeLossy bytes ++ decodeLossy back ∧
      (decodeLossy back = [] ∨ (decodeLossy back).head? = some '\n') := by
  rcases hback with rfl | hhead
  · exact ⟨by rw [decodeLossy_nil, List.append_nil, List.append_nil], .inl rfl⟩
  · obtain ⟨lines, rfl⟩ := List.head?_eq_some_iff.1 hhead
    have hlines : decodeLossy (0x0A :: lines) = '\n' :: decodeLossy lines :=
      decodeLossy_lineFeed [] lines
    rw [decodeLossy_lineFeed, hlines]
    exact ⟨rfl, .inr rfl⟩

/-- Neither blank lines in front nor other lines behind make a difference. -/
theorem pathIn_lines (hfront : BlankLines front) (hback : MoreLines back)
    (hnot : isAllBlank (decodeLossy bytes) = false) :
    pathIn (ofUtf8Lossy (front ++ (bytes ++ back))) = pathIn (ofUtf8Lossy bytes) := by
  obtain ⟨hall, hopens⟩ := hfront.decodeLossy_append (bytes ++ back)
  obtain ⟨hrest, hcloses⟩ := hback.decodeLossy_append bytes
  obtain ⟨line, hline⟩ := exists_isFirstLine hnot
  have hone : IsFirstLine (ofUtf8Lossy bytes).toList line := by
    rw [ofUtf8Lossy, String.toList_ofList]
    exact hline
  have hmany : IsFirstLine (ofUtf8Lossy (front ++ (bytes ++ back))).toList line := by
    rw [ofUtf8Lossy, String.toList_ofList, hall, hrest]
    exact hline.append hfront.blank hopens hcloses
  rw [pathIn_of_isFirstLine hone, pathIn_of_isFirstLine hmany]

/-! ### The search -/

/-- A search that exits with 0 finds nothing if it has printed blanks only. Otherwise it finds the
first line that is not blank, without the blanks around it; so what it finds has none at either end
and no line feed in it, and neither blank lines in front nor other lines behind change it. -/
theorem search_first_line (l : Locator) (hr : (h.launch l.searchCall).result = .ok c)
    (hexit : c.exit = some 0) :
    ((l.search h).value = none ↔ isAllBlank c.stdoutText.toList = true) ∧
      (∀ path, (l.search h).value = some path ↔
        ∃ line, IsFirstLine c.stdoutText.toList line ∧ Trims line path.toList) ∧
      (∀ path, (l.search h).value = some path → Bare path.toList ∧ '\n' ∉ path.toList) ∧
      ∀ (h' : Host) (c' : Completion) (front back : List UInt8),
        (h'.launch l.searchCall).result = .ok c' → c'.exit = some 0 →
        c'.stdout = front ++ (c.stdout ++ back) → BlankLines front → MoreLines back →
        isAllBlank c.stdoutText.toList = false → (l.search h').value = (l.search h).value := by
  have hvalue : (l.search h).value = pathIn c.stdoutText := by
    rw [value_search_of_ok hr, if_pos hexit]
  rw [hvalue]
  refine ⟨pathIn_eq_none_iff, fun path => pathIn_eq_some_iff, fun path hpath => ?_, ?_⟩
  · obtain ⟨line, hline, hbare, before, after, rfl, -, -⟩ := pathIn_eq_some_iff.1 hpath
    exact ⟨hbare, fun hmem => hline.plain (by simp [hmem])⟩
  · intro h' c' front back hr' hexit' hprinted hfront hback hnot
    rw [value_search_of_ok hr', if_pos hexit', Completion.stdoutText, hprinted]
    refine pathIn_lines hfront hback ?_
    rwa [Completion.stdoutText, ofUtf8Lossy, String.toList_ofList] at hnot

/-- A blank line with carriage return, a no-break space, a byte that is no character, two paths. -/
theorem exists_search_first_line : ∃ (l : Locator) (h : Host) (c : Completion),
    c.stdout = [0x0D, 0x0A, 0xC2, 0xA0, 0x2F, 0x68, 0xFF, 0x0D, 0x0A, 0x2F, 0x69] ∧
      (h.launch l.searchCall).result = .ok c ∧ c.exit = some 0 ∧
      (l.search h).value = some "/h\uFFFD" := by
  let c : Completion :=
    ⟨some 0, [0x0D, 0x0A, 0xC2, 0xA0, 0x2F, 0x68, 0xFF, 0x0D, 0x0A, 0x2F, 0x69], []⟩
  let h : Host := ⟨fun _ => false, fun _ => none, fun _ => ⟨[], .ok c⟩⟩
  have htext : c.stdoutText.toList =
      ['\r', '\n', '\u00A0', '/', 'h', '\uFFFD', '\r', '\n', '/', 'i'] := by
    rw [Completion.stdoutText, ofUtf8Lossy, String.toList_ofList]
    decide
  have hline : IsFirstLine c.stdoutText.toList ['\u00A0', '/', 'h', '\uFFFD', '\r'] := by
    rw [htext]
    exact ⟨by decide, by decide, ['\r', '\n'], ['\n', '/', 'i'], rfl, by decide, .inr rfl, .inr rfl⟩
  have htrims : Trims ['\u00A0', '/', 'h', '\uFFFD', '\r'] "/h\uFFFD".toList :=
    ⟨⟨⟨'/', rfl, by decide⟩, '\uFFFD', rfl, by decide⟩, ['\u00A0'], ['\r'], rfl, by decide,
      by decide⟩
  have hfound := (search_first_line ⟨.unix, none⟩ (h := h) (c := c) rfl rfl).2.1 "/h\uFFFD"
  exact ⟨⟨.unix, none⟩, h, c, rfl, rfl, rfl, hfound.2 ⟨_, hline, htrims⟩⟩

end DockLint.Locator

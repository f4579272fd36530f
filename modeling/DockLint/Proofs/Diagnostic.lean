import DockLint.Diagnostic
import DockLint.Proofs.Json.Nested
import DockLint.Proofs.Json.Printed

/-!
# What reports spell

The JSON report is an array with one object for each diagnostic and a line feed behind it
(`jsonReport_eq`), and the severity that the object states is the diagnostic's
(`says_severity_iff`). It is the one that is read there as well (`exists_severity_iff_of_read`).
-/

namespace DockLint

open Json (Frame Numeral Piece Spelling)
open Json.Spelling (layElements layMembers)

theorem Severity.name_inj {a b : Severity} : a.name = b.name ↔ a = b := by
  cases a <;> cases b <;> decide

namespace Diagnostic

def spanSpelling : Option Span → Spelling
  | none => .null
  | some s => .obj .none (layMembers 2 [("start", .num (.ofNat s.start)),
      ("end", .num (.ofNat s.stop))])

/-- A diagnostic as it is printed in a report. -/
def spelling (d : Diagnostic) : Spelling :=
  .obj .none (layMembers 1 [("line", .num (.ofNat d.line)),
    ("message", .str (Piece.ofString d.message)),
    ("severity", .str (Piece.ofString d.severity.name)), ("range", spanSpelling d.span)])

theorem text_spanSpelling (s : Option Span) :
    (spanSpelling s).text = (spanJson s).renderDeep 2 := by
  cases s with
  | none => rfl
  | some s =>
    refine Spelling.text_obj ?_
    simp only [List.map_cons, List.map_nil, Spelling.text, Numeral.text_ofNat]
    rfl

theorem text_spelling (d : Diagnostic) : d.spelling.text = d.toJson.renderDeep 1 := by
  refine Spelling.text_obj ?_
  simp only [List.map_cons, List.map_nil, Spelling.text, Numeral.text_ofNat, Piece.quoted_ofString,
    text_spanSpelling]
  rfl

/-- The frame of a report. -/
def reportFrame : Frame := ⟨.none, .none, ['\n']⟩

/-- The elements of a report. -/
def reportElements (ds : List Diagnostic) : List Spelling :=
  layElements 0 (ds.map spelling)

/-- The array of a report. -/
theorem text_reportElements (ds : List Diagnostic) :
    (Spelling.arr .none (reportElements ds)).text = (Json.arr (ds.map toJson)).renderDeep 0 := by
  refine Spelling.text_arr ?_
  rw [List.map_map, List.map_map]
  exact List.map_congr_left fun d _ => text_spelling d

theorem jsonReport_eq (ds : List Diagnostic) :
    jsonReport ds = reportFrame.output (reportElements ds) := by
  have hframe : reportFrame.text (reportElements ds) =
      (Spelling.arr .none (reportElements ds)).text ++ ['\n'] := by
    simp [Frame.text, Spelling.text, reportFrame, Json.Blanks.none]
  rw [jsonReport, Json.pretty, ← text_reportElements, Frame.output, hframe, String.ofList_append]

theorem says_severity_iff {d : Diagnostic} {severity : Severity} :
    d.spelling.Says "severity" severity.name ↔ d.severity = severity := by
  rw [spelling, Spelling.says_layMembers]
  simp [Spelling.spells_str_ofString, Severity.name_inj]

/-- A severity is stated in a report if a diagnostic has it. -/
theorem exists_says_severity_iff (ds : List Diagnostic) (severity : Severity) :
    (∃ e ∈ reportElements ds, e.Says "severity" severity.name) ↔
      ∃ d ∈ ds, d.severity = severity := by
  rw [reportElements, Spelling.exists_says_layElements]
  constructor
  · rintro ⟨e, he, hs⟩
    obtain ⟨d, hd, rfl⟩ := List.mem_map.1 he
    exact ⟨d, hd, says_severity_iff.1 hs⟩
  · rintro ⟨d, hd, hs⟩
    exact ⟨d.spelling, List.mem_map_of_mem hd, says_severity_iff.2 hs⟩

/-! ### Reading a report back -/

theorem says_iff_of_value? {d : Diagnostic} {key value : String} {v : Json}
    (hv : d.spelling.value? = some v) : d.spelling.Says key value ↔
      ∃ members, v = .obj members ∧ members.lookup key = some (.str value) :=
  Spelling.says_iff_of_value? (by simp) hv

/-- What is read of a report are the values of its diagnostics. -/
theorem map_within_of_read {ds : List Diagnostic} {vs : List Json} {rest : List Char}
    (h : Json.readLeading (jsonReport ds).toList = .ok (vs, rest)) :
    ds.map (fun d => d.spelling.within (Json.maxNesting - 1)) = vs.map some := by
  rw [jsonReport_eq, Frame.output, String.toList_ofList, ← Outcome.toOption_eq_some_iff,
    Json.readLeading_text, Option.map_eq_some_iff] at h
  obtain ⟨ws, hws, he⟩ := h
  rw [Json.together_eq_some_iff, reportElements, Spelling.map_within_layElements, List.map_map]
    at hws
  rw [← (Prod.mk.inj he).1, ← hws]
  rfl

/-- A severity can be read in a report if a diagnostic has it. -/
theorem exists_severity_iff_of_read {ds : List Diagnostic} {vs : List Json} {rest : List Char}
    (h : Json.readLeading (jsonReport ds).toList = .ok (vs, rest)) (severity : Severity) :
    (∃ d ∈ ds, d.severity = severity) ↔
      ∃ members, Json.obj members ∈ vs ∧ members.lookup "severity" = some (.str severity.name) := by
  let value (d : Diagnostic) := d.spelling.within (Json.maxNesting - 1)
  have hmap : ds.map value = vs.map some := map_within_of_read h
  have hvalue {d : Diagnostic} {v : Json} (hv : value d = some v) : d.spelling.value? = some v :=
    (Option.ite_none_right_eq_some.1 hv).2
  constructor
  · rintro ⟨d, hd, hseverity⟩
    obtain ⟨v, hv, he⟩ := List.mem_map.1 (hmap ▸ List.mem_map_of_mem hd)
    obtain ⟨members, rfl, hlookup⟩ :=
      (says_iff_of_value? (hvalue he.symm)).1 (says_severity_iff.2 hseverity)
    exact ⟨members, hv, hlookup⟩
  · rintro ⟨members, hv, hlookup⟩
    obtain ⟨d, hd, he⟩ := List.mem_map.1 (hmap.symm ▸ List.mem_map_of_mem hv)
    exact ⟨d, hd, says_severity_iff.1
      ((says_iff_of_value? (hvalue he)).2 ⟨members, rfl, hlookup⟩)⟩

end Diagnostic

end DockLint

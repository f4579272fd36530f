import Mathlib.Algebra.Group.Nat.Defs
import DockLint.Lint
import DockLint.Proofs.Findings.Records
import DockLint.Proofs.Lines.Span

/-!
# The records of a lint pass

`lintText_records`: whatever the host and the linter do, each record of a pass fits the document,
and the spans of two records lie as their lines do.
-/

namespace DockLint

/-- A record fits a text: its line number is one the linter can report, and its span is that line
of the text, if there is such a line and it has a character. -/
structure Diagnostic.Fits (d : Diagnostic) (cs : List Char) : Prop where
  one_le_line : 1 ≤ d.line
  line_le : d.line ≤ 2 ^ 32 - 1
  message : d.message ≠ ""
  located : d.span.isSome ↔ ∃ l, IsLine cs d.line l ∧ l ≠ []
  nonempty : ∀ s ∈ d.span, s.start < s.stop
  whole : ∀ s ∈ d.span, WholeLine cs s

namespace Findings

open Outcome

variable {table : LineTable} {output : String} {d : Diagnostic} {s : Span}

/-- What a record takes from its issue and from the line table. -/
theorem record_of_mem (h : d ∈ (ofOutput table output).value) :
    1 ≤ d.line ∧ d.line ≤ Issue.maxLine ∧ d.message ≠ "" ∧
      d.span = (table.span d.line).toOption := by
  obtain ⟨v, hv⟩ := mem_ofOutput h
  obtain ⟨i, hi, rfl⟩ := value_ofElement_eq_ok_iff.1 hv
  obtain ⟨-, h1, h2, hne⟩ := Issue.decode_eq_ok_iff.1 hi
  exact ⟨h1, h2, hne, rfl⟩

theorem span_of_mem (h : d ∈ (ofOutput table output).value) (hs : s ∈ d.span) :
    table.span d.line = .ok s := by
  rw [(record_of_mem h).2.2.2] at hs
  exact toOption_eq_some_iff.1 hs

theorem fits_of_mem {text : String} (h : d ∈ (ofOutput (.ofText text) output).value) :
    d.Fits text.toList := by
  obtain ⟨h1, h2, hne, hspan⟩ := record_of_mem h
  refine ⟨h1, h2, hne, ?_, fun s _ => s.start_lt_stop, fun s hs => ?_⟩
  · rw [← LineTable.exists_span_ofText, Option.isSome_iff_exists, hspan]
    simp only [toOption_eq_some_iff]
  · have hs := span_of_mem h hs
    obtain ⟨dv, hdv, hc, ht⟩ := LineTable.exists_ofText_eq text
    rw [ht] at hs
    exact hc ▸ Division.wholeLine_of_span hdv hs

theorem span_eq_of_mem {a b : Diagnostic} (ha : a ∈ (ofOutput table output).value)
    (hb : b ∈ (ofOutput table output).value) (h : a.line = b.line) : a.span = b.span := by
  rw [(record_of_mem ha).2.2.2, (record_of_mem hb).2.2.2, h]

theorem stop_lt_start_of_mem {text : String} {a b : Diagnostic} {t : Span}
    (ha : a ∈ (ofOutput (.ofText text) output).value)
    (hb : b ∈ (ofOutput (.ofText text) output).value) (h : a.line < b.line) (hs : s ∈ a.span)
    (ht : t ∈ b.span) : s.stop < t.start := by
  have hs := span_of_mem ha hs
  have ht := span_of_mem hb ht
  obtain ⟨dv, -, -, htable⟩ := LineTable.exists_ofText_eq text
  rw [htable] at hs ht
  exact Division.stop_lt_start h hs ht

end Findings

namespace Lint

/-- A pass has the records of the linter's output, or none if there is no output. -/
theorem value_lintText (l : Locator) (h : Host) (content : String) :
    (lintText l h content).value = [] ∨
      ∃ output, (lintText l h content).value =
        (Findings.ofOutput (.ofText content) output).value := by
  show (execute l h content (.ofText content)).value.diagnostics = [] ∨ ∃ output,
    (execute l h content (.ofText content)).value.diagnostics =
      (Findings.ofOutput (.ofText content) output).value
  rw [execute, Traced.value_bind]
  cases (invoke l h content).value with
  | error failure => exact .inl rfl
  | ok c => exact .inr ⟨c.combined, rfl⟩

/-- Every record of a pass fits the document. -/
theorem lintText_records (l : Locator) (h : Host) (content : String) :
    (∀ d ∈ (lintText l h content).value, d.Fits content.toList) ∧
      ∀ a ∈ (lintText l h content).value, ∀ b ∈ (lintText l h content).value,
        (a.line = b.line → a.span = b.span) ∧
          (a.line < b.line → ∀ s ∈ a.span, ∀ t ∈ b.span, s.stop < t.start) := by
  rcases value_lintText l h content with hnil | ⟨output, hout⟩
  · rw [hnil]
    exact ⟨List.forall_mem_nil _, List.forall_mem_nil _⟩
  · rw [hout]
    refine ⟨fun d hd => Findings.fits_of_mem hd, fun a ha b hb => ⟨?_, fun hlt s hs t ht => ?_⟩⟩
    · exact Findings.span_eq_of_mem ha hb
    · exact Findings.stop_lt_start_of_mem ha hb hlt hs ht

end Lint

end DockLint

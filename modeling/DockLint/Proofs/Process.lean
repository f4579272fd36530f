import DockLint.Process
import DockLint.Proofs.Text.Truncated

/-!
# Two streams as one text

The output of a process is its two streams, each read on its own. `combined_merged` says when that
is the text of the one stream that they make together, and that nothing is lost where both are
well-formed.
-/

namespace DockLint

theorem ofUtf8Lossy_utf8 (text : String) : ofUtf8Lossy (utf8 text) = text := by
  rw [ofUtf8Lossy, utf8, Text.Utf8.decodeLossy_encode, String.ofList_toList]

theorem utf8_append (s t : String) : utf8 (s ++ t) = utf8 s ++ utf8 t := by
  rw [utf8, String.toList_append]
  exact List.flatMap_append

namespace Completion

open Text.Utf8 (IsContinuation IsTruncated Parts)

variable {c : Completion}

theorem combined_eq_iff : c.combined = ofUtf8Lossy (c.stdout ++ c.stderr) ↔
    ¬ ∃ b, c.stderr.head? = some b ∧ Parts c.stdout b := by
  rw [← Text.Utf8.decodeLossy_append_iff, combined, ofUtf8Lossy, ofUtf8Lossy, ofUtf8Lossy,
    ← String.ofList_append, String.ofList_inj, eq_comm]

/-- The two streams read apart and joined are the one stream that they make together, read as one,
unless standard output ends within a character and standard error begins with a continuation byte;
and then too, unless this byte goes on with that character. Of well-formed streams nothing is lost
and nothing replaced. -/
theorem combined_merged (c : Completion) :
    (¬ (IsTruncated c.stdout ∧ ∃ b, c.stderr.head? = some b ∧ IsContinuation b) →
      c.combined = ofUtf8Lossy (c.stdout ++ c.stderr)) ∧
    (c.combined = ofUtf8Lossy (c.stdout ++ c.stderr) ↔
      ¬ ∃ b, c.stderr.head? = some b ∧ Parts c.stdout b) ∧
    ∀ out err, ofUtf8? c.stdout = some out → ofUtf8? c.stderr = some err →
      c.combined = out ++ err ∧ utf8 c.combined = c.stdout ++ c.stderr := by
  refine ⟨fun h => combined_eq_iff.2 ?_, combined_eq_iff, fun out err hout herr => ?_⟩
  · rintro ⟨b, hb, hparts⟩
    exact h ⟨hparts.isTruncated, b, hb, hparts.isContinuation⟩
  · rw [ofUtf8?_eq_some_iff] at hout herr
    have hcombined : c.combined = out ++ err := by
      rw [combined, hout, herr, ofUtf8Lossy_utf8, ofUtf8Lossy_utf8]
    exact ⟨hcombined, by rw [hcombined, utf8_append, hout, herr]⟩

/-- A character that two streams share is read as two faults. -/
example : combined ⟨some 0, [0xC3], [0xA9]⟩ = "\uFFFD\uFFFD" ∧ ofUtf8Lossy [0xC3, 0xA9] = "é" := by
  decide

end Completion

end DockLint

import DockLint.Proofs.Findings.Records
import DockLint.Proofs.Json.Canonical
import DockLint.Proofs.Severity

/-!
# What an element is judged by

An element is an issue by three values, those of line, message and level. `ofElement_by_fields` says
which they have to be and what becomes of them. Nothing else in an object has a part in its outcome,
not even in the reason why it is skipped.
-/

namespace DockLint

/-- The value has a line, a message and a level, in an object under these names, in an array in this
order and alone. -/
def Json.Reports (v : Json) (line : Nat) (message level : String) : Prop :=
  (∃ ms, v = .obj ms ∧ ms.lookup "line" = some (.num (.natural line)) ∧
    ms.lookup "message" = some (.str message) ∧ ms.lookup "level" = some (.str level)) ∨
  v = .arr [.num (.natural line), .str message, .str level]

namespace Issue

variable {v : Json} {i : Issue} {ms ms' : List (String × Json)}

theorem fields?_eq_some_iff_reports {line : Nat} {message level : String} :
    fields? v = some (.num (.natural line), .str message, .str level) ↔
      v.Reports line message level := by
  cases v with
  | obj ms =>
    rw [fields?_obj_eq_some_iff]
    constructor
    · exact fun h => .inl ⟨ms, rfl, h⟩
    · rintro (⟨ms', hms, h⟩ | h)
      · cases hms
        exact h
      · cases h
  | arr xs =>
    rw [fields?_arr_eq_some_iff]
    constructor
    · exact fun h => .inr (congrArg Json.arr h)
    · rintro (⟨ms, hms, -⟩ | h)
      · cases hms
      · exact Json.arr.inj h
  | _ => simp [fields?, Json.Reports]

theorem decode_eq_ok_iff_reports :
    decode v = .ok i ↔ v.Reports i.line i.message i.level ∧
      1 ≤ i.line ∧ i.line ≤ maxLine ∧ i.message ≠ "" := by
  rw [decode_eq_ok_iff, fields?_eq_some_iff_reports]

theorem reports_inj {line line' : Nat} {message message' level level' : String}
    (h : v.Reports line message level) (h' : v.Reports line' message' level') :
    line = line' ∧ message = message' ∧ level = level' := by
  rw [← fields?_eq_some_iff_reports] at h h'
  have heq := h.symm.trans h'
  simpa using heq

/-- Members under other names do not count. -/
theorem decode_congr (h : ∀ f : Field, ms.lookup f.name = ms'.lookup f.name) :
    decode (.obj ms) = decode (.obj ms') := by
  have hmembers : ofMembers ms = ofMembers ms' := by
    rw [ofMembers, ofMembers, h, h, h]
  rw [decode, decode, hmembers]

end Issue

namespace Findings

open Issue (Field maxLine)
open Severity (IsWord)

variable {v : Json} {d : Diagnostic}

theorem ofElement_congr (table : LineTable) {ms ms' : List (String × Json)}
    (h : ∀ f : Field, ms.lookup f.name = ms'.lookup f.name) :
    ofElement table (.obj ms) = ofElement table (.obj ms') := by
  rw [ofElement, Issue.decode_congr h, ofElement]

/-- The record of an element that has the three values. -/
theorem record_of_reports (table : LineTable) {line : Nat} {message level : String}
    (hd : (ofElement table v).value = .ok d) (hv : v.Reports line message level) :
    d = ⟨line, message, .ofLevel level, (mapLine table line).value⟩ := by
  obtain ⟨i, hi, rfl⟩ := value_ofElement_eq_ok_iff.1 hd
  obtain ⟨rfl, rfl, rfl⟩ := Issue.reports_inj (Issue.decode_eq_ok_iff_reports.1 hi).1 hv
  rw [value_mapLine]
  rfl

/-- An element has a record just if it has a line that a word of 32 bits can number, a message that
is not empty and a level. The record has this line and this message, and the level decides its
severity. Of an object nothing else counts: not its other members, not the order in which they are
written. -/
theorem ofElement_by_fields (table : LineTable) :
    (∀ v, (∃ d, (ofElement table v).value = .ok d) ↔ ∃ line message level,
      v.Reports line message level ∧ 1 ≤ line ∧ line ≤ 2 ^ 32 - 1 ∧ message ≠ "") ∧
    (∀ v d line message level, (ofElement table v).value = .ok d → v.Reports line message level →
      d.line = line ∧ d.message = message ∧ d.span = (mapLine table line).value ∧
        (d.severity = .error ↔ IsWord "error" level) ∧
        (d.severity = .warning ↔ IsWord "warning" level) ∧
        (d.severity = .info ↔ ¬ IsWord "error" level ∧ ¬ IsWord "warning" level)) ∧
    (∀ ms ms' : List (String × Json),
      (∀ key ∈ ["line", "message", "level"], ms.lookup key = ms'.lookup key) →
        ofElement table (.obj ms) = ofElement table (.obj ms')) ∧
    (∀ ms ms' : List (String × Json), (ms.map Prod.fst).Nodup → ms.Perm ms' →
      ofElement table (.obj ms') = ofElement table (.obj ms) ∧
        ofElement table (Json.ofMembers ms') = ofElement table (.obj ms)) := by
  refine ⟨fun v => ?_, fun v d line message level hd hv => ?_, fun ms ms' h => ?_,
    fun ms ms' hnodup hperm => ?_⟩
  · simp only [value_ofElement_eq_ok_iff, Issue.decode_eq_ok_iff_reports]
    constructor
    · rintro ⟨d, i, ⟨hv, h1, h2, h3⟩, -⟩
      exact ⟨_, _, _, hv, h1, h2, h3⟩
    · rintro ⟨line, message, level, hv, h1, h2, h3⟩
      exact ⟨_, ⟨line, message, level⟩, ⟨hv, h1, h2, h3⟩, rfl⟩
  · obtain rfl := record_of_reports table hd hv
    have herror : Severity.ofLevel level = .error ↔ IsWord "error" level :=
      Severity.ofLevel_eq_error_iff
    have hwarning : Severity.ofLevel level = .warning ↔ IsWord "warning" level :=
      Severity.ofLevel_eq_warning_iff
    refine ⟨rfl, rfl, rfl, herror, hwarning, ?_⟩
    rw [← herror, ← hwarning]
    cases Severity.ofLevel level <;> simp
  · refine ofElement_congr table fun f => h f.name ?_
    cases f <;> simp [Field.name]
  · have hlookup := Json.lookup_perm hnodup hperm
    have hnodup' : (ms'.map Prod.fst).Nodup := (hperm.map Prod.fst).nodup_iff.1 hnodup
    refine ⟨ofElement_congr table fun f => hlookup f.name, ofElement_congr table fun f => ?_⟩
    rw [Json.lookup_normalize hnodup', hlookup]

end Findings

end DockLint

import DockLint.Findings
import DockLint.Proofs.Findings.Decode
import DockLint.Proofs.Json.Nested
import DockLint.Proofs.Text.Blank

/-!
# The records in the linter's output

`value_ofOutput`: the records are those of the elements of the leading array, each read on its own,
in the order of the array. Every one of them comes from an element that decodes as an issue
(`mem_ofOutput`).
-/

namespace DockLint.Findings

open Outcome

variable {table : LineTable} {v : Json} {vs : List Json} {d : Diagnostic} {output : String}

@[simp] theorem value_mapLine (table : LineTable) (line : Nat) :
    (mapLine table line).value = (table.span line).toOption := by
  unfold mapLine
  split
  · rename_i h
    rw [h]
    rfl
  · rename_i h
    rw [h]
    split <;> rfl

theorem level_mapLine (table : LineTable) (line : Nat) :
    ∀ note ∈ (mapLine table line).notes, note.level = .debug := by
  unfold mapLine
  split
  · simp
  · split
    · simp
    · simp [Note.level]

theorem value_ofElement_eq_ok_iff :
    (ofElement table v).value = .ok d ↔
      ∃ i, Issue.decode v = .ok i ∧
        d = ⟨i.line, i.message, i.severity, (table.span i.line).toOption⟩ := by
  unfold ofElement
  split
  · rename_i h
    simp [h]
  · rename_i i h
    simp [h, eq_comm]

theorem level_ofElement (table : LineTable) (v : Json) :
    ∀ note ∈ (ofElement table v).notes, note.level = .debug := by
  unfold ofElement
  split
  · simp
  · simpa using level_mapLine table _

theorem value_ofElements (table : LineTable) (vs : List Json) :
    (ofElements table vs).value = vs.filterMap fun v => (ofElement table v).value.toOption := by
  induction vs with
  | nil => rfl
  | cons v vs ih =>
    rw [List.filterMap_cons, ← ih, ofElements, Traced.value_bind]
    cases (ofElement table v).value <;> rfl

theorem level_ofElements (table : LineTable) (vs : List Json) :
    ∀ note ∈ (ofElements table vs).notes, note.level = .debug := by
  induction vs with
  | nil => simp [ofElements]
  | cons v vs ih =>
    intro note hnote
    rw [ofElements, Traced.notes_bind, List.mem_append] at hnote
    rcases hnote with hnote | hnote
    · exact level_ofElement table v note hnote
    · cases hv : (ofElement table v).value with
      | ok d =>
        rw [hv] at hnote
        exact ih note hnote
      | error reason =>
        rw [hv] at hnote
        rcases List.mem_cons.1 hnote with rfl | hnote
        · rfl
        · exact ih note hnote

theorem not_isAllBlank_of_readLeading {cs rest : List Char}
    (h : Json.readLeading cs = .ok (vs, rest)) : Text.isAllBlank cs = false := by
  obtain ⟨t, ht⟩ := Json.skipSpace_of_readLeading h
  have hmem : '[' ∈ Json.skipSpace cs := ht ▸ List.mem_cons_self
  exact Text.not_isAllBlank_of_mem ((List.dropWhile_sublist _).mem hmem) rfl

/-- Once the array is read, each element counts for itself, and nothing is warned about. -/
theorem ofOutput_of_readLeading (table : LineTable) {rest : List Char}
    (h : Json.readLeading output.toList = .ok (vs, rest)) :
    (ofOutput table output).value = (ofElements table vs).value ∧
      ∀ note ∈ (ofOutput table output).notes, note.level = .debug := by
  have hblank := not_isAllBlank_of_readLeading h
  rw [ofOutput, hblank, if_neg Bool.false_ne_true, h]
  dsimp only
  split
  · refine ⟨rfl, fun note hnote => ?_⟩
    rcases List.mem_cons.1 hnote with rfl | hnote
    · rfl
    · exact level_ofElements table vs note hnote
  · exact ⟨rfl, level_ofElements table vs⟩

theorem value_ofOutput (table : LineTable) (output : String) :
    (ofOutput table output).value =
      ((Json.readLeading output.toList).toOption.map fun r =>
        r.1.filterMap fun v => (ofElement table v).value.toOption).getD [] := by
  cases h : Json.readLeading output.toList with
  | ok r => exact (ofOutput_of_readLeading table h).1.trans (value_ofElements table r.1)
  | error fault =>
    rw [ofOutput]
    split
    · rfl
    · rw [h]
      rfl

/-- Every record is that of an issue. -/
theorem mem_ofOutput (h : d ∈ (ofOutput table output).value) :
    ∃ v, (ofElement table v).value = .ok d := by
  rw [value_ofOutput] at h
  cases hr : (Json.readLeading output.toList).toOption with
  | none =>
    rw [hr] at h
    cases h
  | some r =>
    rw [hr] at h
    obtain ⟨v, -, hv⟩ := List.mem_filterMap.1 h
    exact ⟨v, toOption_eq_some_iff.1 hv⟩

end DockLint.Findings

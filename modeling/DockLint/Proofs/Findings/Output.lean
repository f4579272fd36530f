import DockLint.Proofs.Findings.Batch
import DockLint.Proofs.Json.Leading
import DockLint.Proofs.Traced

/-!
# Which output is refused

`beginsWithArray_iff`: the array that output must begin with is one of the grammar whose elements
can be read. What stands behind it has no part in the records (`value_ofOutput_append`). Output that
is neither blank nor begins so is `Unreadable`, and it is the only one that is warned about
(`warns_ofOutput`).
-/

namespace DockLint

/-- A spelling of an issue at the level of errors. -/
def Json.Spelling.IsError (s : Json.Spelling) : Prop :=
  ∃ v i, s.value? = some v ∧ Issue.decode v = .ok i ∧ i.severity = .error

namespace Findings

open Json (Frame Spelling)
open Traced (Warns OnlyLogs log)

variable {output : String} {fault : Json.Fault}

/-! ### What output begins with -/

/-- The output begins, after blanks, with an array whose elements can be read. -/
def BeginsWithArray (output : String) : Prop :=
  ∃ (f : Frame) (es : List Spelling), output = f.output es ∧ ∀ e ∈ es, e.Readable

theorem exists_map_within_iff {es : List Spelling} :
    (∃ vs : List Json, es.map (Spelling.within (Json.maxNesting - 1)) = vs.map some) ↔
      ∀ e ∈ es, e.Readable := by
  constructor
  · rintro ⟨vs, hvs⟩ e he
    rw [← isSome_within_iff]
    obtain ⟨v, -, hv⟩ := List.mem_map.1 (hvs ▸ List.mem_map_of_mem he)
    rw [← hv]
    rfl
  · intro h
    obtain ⟨vs, hvs⟩ := Json.exists_together_eq_some
      (List.forall_mem_map.2 fun e he => isSome_within_iff.2 (h e he))
    exact ⟨vs, Json.together_eq_some_iff.1 hvs⟩

theorem beginsWithArray_iff :
    BeginsWithArray output ↔ ∃ r, Json.readLeading output.toList = .ok r := by
  constructor
  · rintro ⟨f, es, rfl, hes⟩
    obtain ⟨vs, hvs⟩ := exists_map_within_iff.2 hes
    refine ⟨(vs, f.rest), Json.readLeading_eq_ok_iff.2 ⟨f, es, ?_, rfl, hvs⟩⟩
    rw [Frame.output, String.toList_ofList]
  · rintro ⟨⟨vs, rest⟩, hr⟩
    obtain ⟨f, es, hs, -, hvs⟩ := Json.readLeading_eq_ok_iff.1 hr
    refine ⟨f, es, ?_, exists_map_within_iff.1 ⟨vs, hvs⟩⟩
    rw [Frame.output, ← hs, String.ofList_toList]

theorem beginsWithArray_output_iff {f : Frame} {es : List Spelling} :
    BeginsWithArray (f.output es) ↔ ∀ e ∈ es, e.Readable := by
  refine ⟨fun h => ?_, fun h => ⟨f, es, rfl, h⟩⟩
  obtain ⟨r, hr⟩ := beginsWithArray_iff.1 h
  rw [Frame.output, String.toList_ofList, ← Outcome.toOption_eq_some_iff, Json.readLeading_text,
    Option.map_eq_some_iff] at hr
  obtain ⟨vs, hvs, -⟩ := hr
  exact exists_map_within_iff.1 ⟨vs, Json.together_eq_some_iff.1 hvs⟩

instance (output : String) : Decidable (BeginsWithArray output) :=
  decidable_of_iff ((Json.readLeading output.toList).toOption.isSome = true) (by
    rw [beginsWithArray_iff, Option.isSome_iff_exists]
    exact exists_congr fun r => Outcome.toOption_eq_some_iff)

/-- The output is neither blank nor begins with an array. -/
def Unreadable (output : String) : Prop :=
  Text.isAllBlank output.toList = false ∧ ¬ BeginsWithArray output

instance (output : String) : Decidable (Unreadable output) :=
  inferInstanceAs (Decidable (_ ∧ _))

/-! ### What is logged -/

theorem ofOutput_of_blank (table : LineTable) (h : Text.isAllBlank output.toList = true) :
    ofOutput table output = pure [] :=
  if_pos h

theorem ofOutput_of_error (table : LineTable) (hb : Text.isAllBlank output.toList = false)
    (h : Json.readLeading output.toList = .error fault) :
    ofOutput table output = (do
      log (.unreadableOutput fault (String.ofList (Text.trim output.toList)))
      return []) := by
  rw [ofOutput, if_neg (by simp [hb]), h]

/-- Output with no array to read has no records, and a warning unless it is blank. -/
theorem ofOutput_of_not_read (table : LineTable)
    (h : Json.readLeading output.toList = .error fault) :
    (ofOutput table output).value = [] ∧ (ofOutput table output).notes.map Note.level =
      if Text.isAllBlank output.toList then [] else [.warn] := by
  cases hb : Text.isAllBlank output.toList with
  | true =>
    rw [ofOutput_of_blank table hb]
    exact ⟨rfl, rfl⟩
  | false =>
    rw [ofOutput_of_error table hb h]
    exact ⟨rfl, rfl⟩

/-- What stands behind the array has no part in the records. -/
theorem value_ofOutput_append (table : LineTable) (h : BeginsWithArray output) (t : String) :
    (ofOutput table (output ++ t)).value = (ofOutput table output).value := by
  obtain ⟨⟨vs, rest⟩, hr⟩ := beginsWithArray_iff.1 h
  have hrt : Json.readLeading (output ++ t).toList = .ok (vs, rest ++ t.toList) := by
    rw [String.toList_append]
    exact Json.readLeading_append hr t.toList
  rw [(ofOutput_of_readLeading table hr).1, (ofOutput_of_readLeading table hrt).1]

/-- The one warning is about output that cannot be read. -/
theorem warns_ofOutput (table : LineTable) (output : String) :
    (ofOutput table output).Warns (if Unreadable output then 1 else 0) := by
  cases hb : Text.isAllBlank output.toList with
  | true =>
    have hread : ¬ Unreadable output := fun h => by
      rw [h.1] at hb
      cases hb
    rw [if_neg hread, ofOutput_of_blank table hb]
    exact .pure []
  | false =>
    cases hr : Json.readLeading output.toList with
    | ok r =>
      rw [if_neg fun h => h.2 (beginsWithArray_iff.2 ⟨r, hr⟩)]
      refine .of_notes fun note hnote => ?_
      rw [(ofOutput_of_readLeading table hr).2 note hnote]
      decide
    | error fault =>
      have hnone : ¬ BeginsWithArray output := fun h => by
        obtain ⟨r, hok⟩ := beginsWithArray_iff.1 h
        rw [hr] at hok
        cases hok
      rw [if_pos ⟨hb, hnone⟩, ofOutput_of_error table hb hr]
      exact ⟨rfl, rfl⟩

/-! ### Errors that output reports -/

/-- The array that the output begins with has an issue among its elements that is an error. -/
def ReportsError (output : String) : Prop :=
  ∃ (f : Frame) (es : List Spelling), output = f.output es ∧ (∀ e ∈ es, e.Readable) ∧
    ∃ e ∈ es, e.IsError

theorem value_ofOutput_of_readable (table : LineTable) (f : Frame) {es : List Spelling}
    (h : ∀ e ∈ es, e.Readable) :
    (ofOutput table (f.output es)).value = es.filterMap (record? table) := by
  rw [← filterMap_slots, slots_of_readable h, List.filterMap_map]
  rfl

theorem record?_eq_some_iff (table : LineTable) {e : Spelling} (h : e.Readable) {d : Diagnostic} :
    record? table e = some d ↔ ∃ v i, e.value? = some v ∧ Issue.decode v = .ok i ∧
      d = ⟨i.line, i.message, i.severity, (table.span i.line).toOption⟩ := by
  rw [record?, Spelling.within, if_pos h.1, Option.bind_eq_some_iff]
  simp only [Outcome.toOption_eq_some_iff, value_ofElement_eq_ok_iff, exists_and_left]

theorem exists_error_record_iff (table : LineTable) {e : Spelling} (h : e.Readable) :
    (∃ d, record? table e = some d ∧ d.severity = .error) ↔ e.IsError := by
  simp only [record?_eq_some_iff table h]
  constructor
  · rintro ⟨d, ⟨v, i, hv, hi, rfl⟩, hd⟩
    exact ⟨v, i, hv, hi, hd⟩
  · rintro ⟨v, i, hv, hi, hd⟩
    exact ⟨_, ⟨v, i, hv, hi, rfl⟩, hd⟩

/-- The records tell whether the output reports an error. -/
theorem reportsError_iff (table : LineTable) (output : String) :
    ReportsError output ↔ ∃ d ∈ (ofOutput table output).value, d.severity = .error := by
  constructor
  · rintro ⟨f, es, rfl, hes, e, he, herror⟩
    obtain ⟨d, hd, hseverity⟩ := (exists_error_record_iff table (hes e he)).2 herror
    rw [value_ofOutput_of_readable table f hes]
    exact ⟨d, List.mem_filterMap.2 ⟨e, he, hd⟩, hseverity⟩
  · rintro ⟨d, hd, hseverity⟩
    by_cases harray : BeginsWithArray output
    · obtain ⟨f, es, rfl, hes⟩ := harray
      rw [value_ofOutput_of_readable table f hes] at hd
      obtain ⟨e, he, hrecord⟩ := List.mem_filterMap.1 hd
      exact ⟨f, es, rfl, hes, e, he,
        (exists_error_record_iff table (hes e he)).1 ⟨d, hrecord, hseverity⟩⟩
    · cases hr : Json.readLeading output.toList with
      | ok r => exact absurd (beginsWithArray_iff.2 ⟨r, hr⟩) harray
      | error fault =>
        rw [(ofOutput_of_not_read table hr).1] at hd
        cases hd

/-! ### What is asked of the host -/

theorem onlyLogs_mapLine (table : LineTable) (line : Nat) : (mapLine table line).OnlyLogs := by
  unfold mapLine
  split
  · exact .pure _
  · split
    · exact .pure _
    · exact .bind (.log _) (.pure _)

theorem onlyLogs_ofElement (table : LineTable) (v : Json) : (ofElement table v).OnlyLogs := by
  unfold ofElement
  split
  · exact .pure _
  · exact .bind (onlyLogs_mapLine table _) (.pure _)

theorem onlyLogs_ofElements (table : LineTable) (vs : List Json) :
    (ofElements table vs).OnlyLogs := by
  induction vs with
  | nil => exact .pure _
  | cons v vs ih =>
    refine .bind (onlyLogs_ofElement table v) ?_
    cases (ofElement table v).value with
    | ok d => exact .map _ ih
    | error reason => exact .bind (.log _) ih

theorem onlyLogs_ofOutput (table : LineTable) (output : String) :
    (ofOutput table output).OnlyLogs := by
  unfold ofOutput
  dsimp only
  split
  · exact .pure _
  · split
    · exact .bind (.log _) (.pure _)
    · split
      · exact .bind (.log _) (onlyLogs_ofElements table _)
      · exact onlyLogs_ofElements table _

end Findings

end DockLint

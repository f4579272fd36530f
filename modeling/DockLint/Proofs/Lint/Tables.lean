import DockLint.Proofs.Findings.Accounts
import DockLint.Proofs.Lint.Pass
import DockLint.Proofs.Lint.Records

/-!
# Passes with different line tables

A pass knows its line table by the lines that it looks up there, one for each diagnostic. A `Sketch`
is a trace with the look-ups left open, and `exists_sketch` says that a pass has one for all tables.
So the table decides on the spans and on what is noted of them, and on nothing else
(`execute_of_two_tables`).
-/

namespace DockLint

open Findings (mapLine)

/-- What is done, with the look-up of a line in place of what it leaves. -/
abbrev Sketch := List (Event ⊕ Nat)

namespace Sketch

/-- The trace with the lines looked up in a table. -/
def fill (t : LineTable) (p : Sketch) : List Event :=
  p.flatMap (Sum.elim (fun e => [e]) fun line => (mapLine t line).trace)

/-- The lines that are looked up, in order. -/
def lines (p : Sketch) : List Nat :=
  p.filterMap Sum.getRight?

/-- What does not depend on the table. -/
def fixed (es : List Event) : Sketch :=
  es.map .inl

variable {t : LineTable} {p q : Sketch}

@[simp] theorem fill_append : fill t (p ++ q) = fill t p ++ fill t q :=
  List.flatMap_append

@[simp] theorem lines_append : lines (p ++ q) = lines p ++ lines q :=
  List.filterMap_append

@[simp] theorem fill_fixed (es : List Event) : fill t (fixed es) = es := by
  rw [fill, fixed, List.flatMap_map]
  exact List.flatMap_singleton' es

@[simp] theorem lines_fixed (es : List Event) : lines (fixed es) = [] := by
  rw [lines, fixed, List.filterMap_map]
  exact List.filterMap_eq_nil_iff.2 fun _ _ => rfl

end Sketch

/-- The diagnostic of an issue, before its line is looked up. -/
def Diagnostic.unmapped (d : Diagnostic) : Diagnostic :=
  { d with span := none }

namespace Findings

variable {t u : LineTable} {v : Json} {vs : List Json} {issue : Issue} {reason : Issue.Malformed}
  {output : String}

theorem ofElements_cons_of_ok (h : Issue.decode v = .ok issue) :
    ofElements t (v :: vs) = (do
      let span ← mapLine t issue.line
      (⟨issue.line, issue.message, issue.severity, span⟩ :: ·) <$> ofElements t vs) := by
  rw [ofElements, ofElement, h]
  exact bind_assoc ..

theorem ofElements_cons_of_error (h : Issue.decode v = .error reason) :
    ofElements t (v :: vs) = (do
      Traced.log (.skippedIssue reason v)
      ofElements t vs) := by
  rw [ofElements, ofElement, h]
  rfl

/-- An issue has its line looked up, any other element is skipped. -/
def sketch (v : Json) : Sketch :=
  match Issue.decode v with
  | .ok issue => [.inr issue.line]
  | .error reason => [.inl (.log (.skippedIssue reason v))]

theorem sketch_ofElements (t : LineTable) (vs : List Json) :
    (ofElements t vs).trace = Sketch.fill t (vs.flatMap sketch) ∧
      (ofElements t vs).value.map Diagnostic.line = Sketch.lines (vs.flatMap sketch) := by
  induction vs with
  | nil => exact ⟨rfl, rfl⟩
  | cons v vs ih =>
    rw [List.flatMap_cons, Sketch.fill_append, Sketch.lines_append, ← ih.1, ← ih.2, sketch]
    cases hd : Issue.decode v with
    | ok issue =>
      rw [ofElements_cons_of_ok hd]
      refine ⟨?_, rfl⟩
      simp [Sketch.fill]
    | error reason =>
      rw [ofElements_cons_of_error hd]
      exact ⟨rfl, rfl⟩

/-- The table decides on nothing but the span. -/
theorem unmapped_ofElement (t u : LineTable) (v : Json) :
    (ofElement t v).value.toOption.map Diagnostic.unmapped =
      (ofElement u v).value.toOption.map Diagnostic.unmapped := by
  rw [ofElement, ofElement]
  cases Issue.decode v <;> rfl

theorem exists_sketch_ofOutput (output : String) : ∃ p : Sketch, ∀ t : LineTable,
    (ofOutput t output).trace = p.fill t ∧
      (ofOutput t output).value.map Diagnostic.line = p.lines := by
  cases hb : Text.isAllBlank output.toList with
  | true =>
    refine ⟨[], fun t => ?_⟩
    rw [ofOutput_of_blank t hb]
    exact ⟨rfl, rfl⟩
  | false =>
    cases hr : Json.readLeading output.toList with
    | error fault =>
      refine ⟨.fixed [.log (.unreadableOutput fault (String.ofList (Text.trim output.toList)))],
        fun t => ?_⟩
      rw [ofOutput_of_error t hb hr, Sketch.fill_fixed, Sketch.lines_fixed]
      exact ⟨rfl, rfl⟩
    | ok r =>
      obtain ⟨vs, rest⟩ := r
      refine ⟨.fixed ((trailing rest).map .log) ++ vs.flatMap sketch, fun t => ?_⟩
      rw [ofOutput_of_ok t hr, Sketch.fill_append, Sketch.lines_append, Sketch.fill_fixed,
        Sketch.lines_fixed, ← (sketch_ofElements t vs).1, ← (sketch_ofElements t vs).2]
      exact ⟨rfl, rfl⟩

theorem unmapped_ofOutput (t u : LineTable) (output : String) :
    (ofOutput t output).value.map Diagnostic.unmapped =
      (ofOutput u output).value.map Diagnostic.unmapped := by
  rw [value_ofOutput, value_ofOutput]
  cases (Json.readLeading output.toList).toOption with
  | none => rfl
  | some r =>
    simp only [Option.map_some, Option.getD_some, List.map_filterMap, unmapped_ofElement t u]

end Findings

namespace Lint

variable {l : Locator} {h : Host} {content : String}

theorem exists_sketch (l : Locator) (h : Host) (content : String) :
    ∃ p : Sketch, ∀ t : LineTable, (execute l h content t).trace = p.fill t ∧
      (execute l h content t).value.diagnostics.map Diagnostic.line = p.lines := by
  obtain hv | ⟨path, cause, hv, hr⟩ | ⟨c, path, hv, hr⟩ := course_cases l h content
  · let course : Traced Unit := do
      let _ ← l.locate h
      Traced.log (.lintFailed .notFound)
    refine ⟨.fixed course.trace, fun t => ?_⟩
    rw [execute_of_none hv, Sketch.fill_fixed, Sketch.lines_fixed]
    exact ⟨rfl, rfl⟩
  · let course : Traced Unit := do
      let _ ← l.locate h
      let _ ← h.run (lintCall path content)
      Traced.log (.lintFailed (.launch path cause))
    refine ⟨.fixed course.trace, fun t => ?_⟩
    rw [execute_of_error hv hr, Sketch.fill_fixed, Sketch.lines_fixed]
    exact ⟨rfl, rfl⟩
  · obtain ⟨p, hp⟩ := Findings.exists_sketch_ofOutput c.combined
    -- Only what is read of the output has look-ups; what comes before is the same for all tables.
    let before : Traced Unit := do
      let _ ← l.locate h
      let _ ← h.run (lintCall path content)
      Traced.log (exitNote c.exit c.combined)
    refine ⟨.fixed before.trace ++ p, fun t => ?_⟩
    rw [execute_of_ok hv hr, Sketch.fill_append, Sketch.lines_append, Sketch.fill_fixed,
      Sketch.lines_fixed, ← (hp t).1, ← (hp t).2]
    simp [before]

theorem unmapped_execute (l : Locator) (h : Host) (content : String) (t u : LineTable) :
    (execute l h content t).value.outcome = (execute l h content u).value.outcome ∧
    (execute l h content t).value.diagnostics.map Diagnostic.unmapped =
      (execute l h content u).value.diagnostics.map Diagnostic.unmapped := by
  obtain hv | ⟨path, cause, hv, hr⟩ | ⟨c, hran⟩ := course_cases l h content
  · rw [execute_of_none hv, execute_of_none hv]
    exact ⟨rfl, rfl⟩
  · rw [execute_of_error hv hr, execute_of_error hv hr]
    exact ⟨rfl, rfl⟩
  · rw [value_execute_of_ran t hran, value_execute_of_ran u hran]
    exact ⟨rfl, Findings.unmapped_ofOutput t u c.combined⟩

theorem span_of_mem_execute {t : LineTable} {d : Diagnostic}
    (hd : d ∈ (execute l h content t).value.diagnostics) : d.span = (mapLine t d.line).value := by
  obtain hv | ⟨path, cause, hv, hr⟩ | ⟨c, hran⟩ := course_cases l h content
  · rw [execute_of_none hv] at hd
    cases hd
  · rw [execute_of_error hv hr] at hd
    cases hd
  · rw [value_execute_of_ran t hran] at hd
    rw [(Findings.record_of_mem hd).2.2.2, Findings.value_mapLine]

/-- Two passes over one document that differ in their line tables alone ask and run the same, end
the same way and have the same diagnostics but for the spans, each of which is the line looked up in
the table at hand. Their traces are the same but for what the look-ups leave there. -/
theorem execute_of_two_tables (l : Locator) (h : Host) (content : String) (t u : LineTable) :
    let a := execute l h content t
    let b := execute l h content u
    a.probes = b.probes ∧ a.calls = b.calls ∧ a.value.outcome = b.value.outcome ∧
    a.value.diagnostics.map Diagnostic.unmapped = b.value.diagnostics.map Diagnostic.unmapped ∧
    (∀ d ∈ a.value.diagnostics, d.span = (mapLine t d.line).value) ∧
    (∃ p : Sketch, a.trace = p.fill t ∧ b.trace = p.fill u ∧
      p.lines = a.value.diagnostics.map Diagnostic.line) ∧
    ((run l h content t).value = a.value.diagnostics ∧ (run l h content t).trace = a.trace) ∧
    (lintText l h content).value =
      (execute l h content (.ofText content)).value.diagnostics := by
  intro a b
  have hquestions : a.questions = b.questions :=
    (questions_execute l h content t).trans (questions_execute l h content u).symm
  obtain ⟨houtcome, hunmapped⟩ := unmapped_execute l h content t u
  obtain ⟨p, hp⟩ := exists_sketch l h content
  refine ⟨?_, ?_, houtcome, hunmapped, fun d hd => span_of_mem_execute hd,
    ⟨p, (hp t).1, (hp u).1, (hp t).2.symm⟩, ⟨rfl, rfl⟩, rfl⟩
  · rw [Traced.probes_eq, hquestions, ← Traced.probes_eq]
  · rw [Traced.calls_eq, hquestions, ← Traced.calls_eq]

end Lint

end DockLint

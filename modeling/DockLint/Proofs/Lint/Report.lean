import DockLint.Proofs.Lint.Pass
import DockLint.Proofs.Text.Utf8

/-!
# Complete and cut reports

Only the linter's standard output up to the closing bracket of its array decides on the diagnostics.
Once that is complete, neither standard error nor the exit has a part in them
(`diagnostics_of_stdout`). As long as it is not, there are none: a report that is cut anywhere in
front of the bracket, be it within a character, is refused as a whole (`execute_cut`).
-/

namespace DockLint.Lint

open Findings (BeginsWithArray)
open Json (Frame Spelling)
open Text.Utf8 (decodeLossy encode)

variable {l l₁ l₂ : Locator} {h h₁ h₂ : Host} {content : String} {table : LineTable}
  {c c₁ c₂ : Completion} {f : Frame} {es : List Spelling} {p : List UInt8}

/-! ### Complete reports -/

theorem diagnostics_of_ran (table : LineTable) (hran : Ran l h content c)
    (harray : BeginsWithArray (ofUtf8Lossy c.stdout)) :
    (execute l h content table).value.diagnostics =
      (Findings.ofOutput table (ofUtf8Lossy c.stdout)).value := by
  rw [value_execute_of_ran table hran, Completion.combined]
  exact Findings.value_ofOutput_append table harray (ofUtf8Lossy c.stderr)

/-- If standard output begins with an array, runs that differ in nothing but standard error and the
exit have the same diagnostics, those of standard output by itself. -/
theorem diagnostics_of_stdout (table : LineTable) (hran₁ : Ran l₁ h₁ content c₁)
    (hran₂ : Ran l₂ h₂ content c₂) (hout : c₁.stdout = c₂.stdout)
    (harray : BeginsWithArray (ofUtf8Lossy c₁.stdout)) :
    (execute l₁ h₁ content table).value.diagnostics =
        (execute l₂ h₂ content table).value.diagnostics ∧
      (execute l₁ h₁ content table).value.diagnostics =
        (Findings.ofOutput table (ofUtf8Lossy c₁.stdout)).value := by
  have h1 := diagnostics_of_ran table hran₁ harray
  have h2 := diagnostics_of_ran table hran₂ (hout ▸ harray)
  rw [← hout] at h2
  exact ⟨h1.trans h2.symm, h1⟩

/-- A linter that exits and one that a signal ends. The last byte of standard output and the first
of standard error would be a character together. -/
theorem exists_diagnostics_of_stdout : ∃ (l : Locator) (h₁ h₂ : Host) (c₁ c₂ : Completion),
    Ran l h₁ "FROM a" c₁ ∧ Ran l h₂ "FROM a" c₂ ∧ c₁.stdout = c₂.stdout ∧
      c₁ = ⟨some 0, utf8 ("[\x7b\x22line\x22:1,\x22message\x22:\x22m\x22," ++
        "\x22level\x22:\x22error\x22\x7d]") ++ [0xC3], [0xA9]⟩ ∧
      c₂.exit = none ∧ c₂.stderr = utf8 "]" ∧ BeginsWithArray (ofUtf8Lossy c₁.stdout) ∧
      (execute l h₁ "FROM a" (.ofText "FROM a")).value.diagnostics =
        (execute l h₂ "FROM a" (.ofText "FROM a")).value.diagnostics ∧
      (execute l h₁ "FROM a" (.ofText "FROM a")).value.diagnostics =
        [⟨1, "m", .error, some ⟨0, 6, by decide⟩⟩] := by
  let printed : List UInt8 := utf8 ("[\x7b\x22line\x22:1,\x22message\x22:\x22m\x22," ++
    "\x22level\x22:\x22error\x22\x7d]") ++ [0xC3]
  have harray : BeginsWithArray (ofUtf8Lossy printed) := by decide +kernel
  have hran₁ := ran_hostEnding "FROM a" ⟨some 0, printed, [0xA9]⟩
  have hran₂ := ran_hostEnding "FROM a" ⟨none, printed, utf8 "]"⟩
  obtain ⟨hsame, hvalue⟩ := diagnostics_of_stdout (.ofText "FROM a") hran₁ hran₂ rfl harray
  refine ⟨_, _, _, _, _, hran₁, hran₂, rfl, rfl, rfl, rfl, harray, hsame, ?_⟩
  rw [hvalue]
  decide +kernel

/-! ### Cut reports -/

/-- A replacement character in place of the character that is cut does not close the array. -/
theorem not_readLeading_of_encode (hes : ∀ e ∈ es, e.Readable) (hp : p <+: encode (f.front es)) :
    ∃ fault, Json.readLeading (decodeLossy p) = .error fault := by
  obtain ⟨vs, hvs⟩ := Findings.exists_map_within_iff.2 hes
  have hread : Json.readLeading (f.text es) = .ok (vs, f.rest) :=
    Json.readLeading_eq_ok_iff.2 ⟨f, es, rfl, rfl, hvs⟩
  obtain ⟨q, w, ⟨u, hq⟩, hp, hw⟩ := Text.Utf8.decodeLossy_cut hp
  rw [Frame.text_eq_append, ← hq, List.append_assoc] at hread
  rw [hp]
  refine Json.not_readLeading_of_cut hread ?_ ?_
  · rw [List.length_append, List.length_cons]
    omega
  · rcases hw with rfl | rfl <;> decide

/-- What is printed of an array before its closing bracket has no diagnostics, and it is warned
about once unless it is blank. -/
theorem execute_cut (l : Locator) (h : Host) (content : String) (table : LineTable) (f : Frame)
    (es : List Spelling) (hes : ∀ e ∈ es, e.Readable) (p : List UInt8)
    (hp : p <+: encode (f.front es)) (exit : Option Int) (hran : Ran l h content ⟨exit, p, []⟩) :
    let pass := execute l h content table
    let reading := Findings.ofOutput table (ofUtf8Lossy p)
    pass.value = ⟨.completed exit, []⟩ ∧
    pass.notes = (invoke l h content).notes ++ exitNote exit (ofUtf8Lossy p) :: reading.notes ∧
    reading.notes.map Note.level = if Text.isAllBlank (decodeLossy p) then [] else [.warn] := by
  have hcombined : Completion.combined ⟨exit, p, []⟩ = ofUtf8Lossy p := String.append_empty
  have htext : (ofUtf8Lossy p).toList = decodeLossy p := String.toList_ofList
  obtain ⟨fault, hfault⟩ := not_readLeading_of_encode hes hp
  rw [← htext] at hfault
  obtain ⟨hvalue, hlevels⟩ := Findings.ofOutput_of_not_read table hfault
  refine ⟨?_, ?_, ?_⟩
  · rw [value_execute_of_ran table hran, hcombined, hvalue]
  · rw [notes_execute_of_ran table hran, hcombined]
  · rw [hlevels, htext]

/-- A linter that a signal ends within a character of a string. -/
theorem exists_execute_cut : ∃ (l : Locator) (h : Host) (f : Frame) (es : List Spelling)
    (p : List UInt8), (∀ e ∈ es, e.Readable) ∧ p <+: encode (f.front es) ∧
      Ran l h "FROM a" ⟨none, p, []⟩ ∧ ofUtf8Lossy p = "\n[null, [\x22m\uFFFD" ∧
      (execute l h "FROM a" (.ofText "FROM a")).value = ⟨.completed none, []⟩ ∧
      (execute l h "FROM a" (.ofText "FROM a")).notes.map Note.level =
        [.debug, .info, .debug, .warn, .warn] := by
  let f : Frame := ⟨⟨['\n'], by simp⟩, .none, []⟩
  let es : List Spelling := [.null, .padded ⟨[' '], by simp⟩
    (.arr .none [.str [.plain 'm' (by decide), .plain 'é' (by decide)]]) .none]
  let p : List UInt8 := utf8 "\n[null, [\x22m" ++ [0xC3]
  have hes : ∀ e ∈ es, e.Readable := by decide
  have hp : p <+: encode (f.front es) := by decide
  have hran := ran_hostEnding "FROM a" ⟨none, p, []⟩
  obtain ⟨hvalue, hnotes, hlevels⟩ := execute_cut _ _ _ (.ofText "FROM a") f es hes p hp none hran
  refine ⟨_, _, f, es, p, hes, hp, hran, by decide, hvalue, ?_⟩
  rw [hnotes, List.map_append, List.map_cons, hlevels]
  decide

end DockLint.Lint

import DockLint.Proofs.Findings.Output

/-!
# What becomes of the elements

Each element of the array leaves its record or one note that it is skipped, and besides that only
notes about its line (`notes_ofElements`). `ofOutput_accounts` puts this beside the other two ways
that a pass over the output can take, that of blank output and that of output without an array.
-/

namespace DockLint

namespace Note

def isSkip : Note → Bool
  | skippedIssue .. => true
  | _ => false

def isTrailing : Note → Bool
  | trailingOutput _ => true
  | _ => false

end Note

namespace Findings

open Json (Frame Spelling)
open Outcome

variable {table : LineTable} {output : String} {v : Json} {vs : List Json} {rest : List Char}

/-! ### One element -/

/-- The record of an element that is an issue. -/
def kept? (table : LineTable) (v : Json) : Option Diagnostic :=
  (ofElement table v).value.toOption

/-- What is noted of an element that is none. -/
def skipped? (v : Json) : Option Note :=
  match Issue.decode v with
  | .ok _ => none
  | .error reason => some (.skippedIssue reason v)

/-- Either the one or the other is there. -/
theorem isSome_kept? (table : LineTable) (v : Json) :
    (kept? table v).isSome = !(skipped? v).isSome := by
  unfold kept? skipped? ofElement
  cases Issue.decode v <;> rfl

theorem isSkip_of_mem_skipped? {note : Note} (h : note ∈ skipped? v) : note.isSkip = true := by
  unfold skipped? at h
  cases hd : Issue.decode v with
  | ok i =>
    rw [hd] at h
    cases h
  | error reason =>
    rw [hd] at h
    obtain rfl := Option.some.inj h
    rfl

/-- A line that is not in the document is noted, and nothing else. -/
theorem notes_mapLine {line : Nat} {note : Note} (h : note ∈ (mapLine table line).notes) :
    ∃ fault, note = .unmappedLine fault := by
  unfold mapLine at h
  split at h
  · cases h
  · split at h
    · cases h
    · exact ⟨_, List.mem_singleton.1 h⟩

theorem notes_ofElement {note : Note} (h : note ∈ (ofElement table v).notes) :
    ∃ fault, note = .unmappedLine fault := by
  unfold ofElement at h
  split at h
  · cases h
  · rw [Traced.notes_bind, Traced.notes_pure, List.append_nil] at h
    exact notes_mapLine h

/-! ### All elements -/

theorem skipped?_of_ok {d : Diagnostic} (h : (ofElement table v).value = .ok d) :
    skipped? v = none := by
  obtain ⟨i, hi, -⟩ := value_ofElement_eq_ok_iff.1 h
  rw [skipped?, hi]

theorem skipped?_of_error {reason : Issue.Malformed}
    (h : (ofElement table v).value = .error reason) :
    skipped? v = some (.skippedIssue reason v) := by
  unfold ofElement at h
  unfold skipped?
  cases hd : Issue.decode v with
  | ok i =>
    rw [hd] at h
    cases h
  | error reason' =>
    rw [hd] at h
    obtain rfl := Except.error.inj h
    rfl

/-- Every element has its notes behind those of the elements before it. -/
theorem notes_ofElements (table : LineTable) (vs : List Json) :
    (ofElements table vs).notes =
      vs.flatMap fun v => (ofElement table v).notes ++ (skipped? v).toList := by
  induction vs with
  | nil => rfl
  | cons v vs ih =>
    rw [List.flatMap_cons, ← ih, ofElements, Traced.notes_bind, List.append_assoc]
    refine congrArg ((ofElement table v).notes ++ ·) ?_
    -- What is noted of the element itself is done with; its record is kept or its skip noted.
    cases hv : (ofElement table v).value with
    | ok d =>
      rw [skipped?_of_ok hv]
      rfl
    | error reason =>
      rw [skipped?_of_error hv]
      rfl

theorem skips_ofElements (table : LineTable) (vs : List Json) :
    (ofElements table vs).notes.filter Note.isSkip = vs.filterMap skipped? := by
  rw [notes_ofElements, List.filter_flatMap, List.filterMap_eq_flatMap_toList]
  refine congrArg (vs.flatMap ·) (funext fun v => ?_)
  have hmapped : (ofElement table v).notes.filter Note.isSkip = [] := by
    refine List.filter_eq_nil_iff.2 fun note hnote => ?_
    obtain ⟨fault, rfl⟩ := notes_ofElement hnote
    exact Bool.false_ne_true
  have hskipped : (skipped? v).toList.filter Note.isSkip = (skipped? v).toList :=
    List.filter_eq_self.2 fun note hnote => isSkip_of_mem_skipped? (Option.mem_toList.1 hnote)
  rw [List.filter_append, hmapped, hskipped, List.nil_append]

theorem not_isTrailing_ofElements {note : Note} (h : note ∈ (ofElements table vs).notes) :
    note.isTrailing = false := by
  rw [notes_ofElements] at h
  obtain ⟨v, -, hv⟩ := List.mem_flatMap.1 h
  rcases List.mem_append.1 hv with hmapped | hskipped
  · obtain ⟨fault, rfl⟩ := notes_ofElement hmapped
    rfl
  · have hskip := isSkip_of_mem_skipped? (Option.mem_toList.1 hskipped)
    cases note with
    | skippedIssue reason element => rfl
    | _ => cases hskip

/-- No element has gone. -/
theorem length_kept?_add_length_skipped? (table : LineTable) (vs : List Json) :
    (vs.filterMap (kept? table)).length + (vs.filterMap skipped?).length = vs.length := by
  rw [List.length_filterMap_eq_countP, List.length_filterMap_eq_countP,
    List.length_eq_countP_add_countP fun v => (kept? table v).isSome]
  refine congrArg (_ + ·) (List.countP_congr fun v _ => ?_)
  rw [isSome_kept?]
  cases skipped? v <;> simp

/-! ### The output -/

/-- The note about what stands behind the array. -/
def trailing (rest : List Char) : List Note :=
  if Text.isAllBlank rest then [] else [.trailingOutput (String.ofList (Text.trim rest))]

/-- The note comes first, then the elements are gone through. -/
theorem ofOutput_of_ok (table : LineTable) (h : Json.readLeading output.toList = .ok (vs, rest)) :
    ofOutput table output = (do
      Traced.logAll (trailing rest)
      ofElements table vs) := by
  rw [ofOutput, not_isAllBlank_of_readLeading h, if_neg Bool.false_ne_true, h, trailing]
  dsimp only
  cases hb : Text.isAllBlank rest with
  | true =>
    rw [Text.trim_eq_nil_iff.2 hb]
    rfl
  | false =>
    have hne : (Text.trim rest).isEmpty = false := by
      rw [List.isEmpty_eq_false_iff]
      intro htrim
      rw [Text.trim_eq_nil_iff.1 htrim] at hb
      cases hb
    rw [hne]
    rfl

theorem notes_ofOutput_of_readLeading (table : LineTable)
    (h : Json.readLeading output.toList = .ok (vs, rest)) :
    (ofOutput table output).notes = trailing rest ++ (ofElements table vs).notes := by
  rw [ofOutput_of_ok table h, Traced.notes_bind, Traced.notes_logAll]

/-- All elements of an array are accounted for by a pass over output that has `rest` behind it. -/
structure Accounts (table : LineTable) (vs : List Json) (rest : List Char)
    (pass : Traced (List Diagnostic)) : Prop where
  warnings : pass.warnings = []
  records : pass.value = vs.filterMap (kept? table)
  skips : pass.notes.filter Note.isSkip = vs.filterMap skipped?
  once : ∀ v ∈ vs, (kept? table v).isSome = !(skipped? v).isSome
  count : pass.value.length + (pass.notes.filter Note.isSkip).length = vs.length
  trailing : ∃ notes, pass.notes = trailing rest ++ notes ∧ ∀ note ∈ notes, note.isTrailing = false

theorem accounts_of_readLeading (table : LineTable)
    (h : Json.readLeading output.toList = .ok (vs, rest)) :
    Accounts table vs rest (ofOutput table output) := by
  have hvalue : (ofOutput table output).value = vs.filterMap (kept? table) :=
    (ofOutput_of_readLeading table h).1.trans (value_ofElements table vs)
  have hnotes := notes_ofOutput_of_readLeading table h
  have hskips : (ofOutput table output).notes.filter Note.isSkip = vs.filterMap skipped? := by
    have hfront : (trailing rest).filter Note.isSkip = [] := by
      unfold trailing
      split <;> rfl
    rw [hnotes, List.filter_append, hfront, List.nil_append, skips_ofElements]
  refine ⟨?_, hvalue, hskips, fun v _ => isSome_kept? table v, ?_,
    ⟨_, hnotes, fun note => not_isTrailing_ofElements⟩⟩
  · refine List.filter_eq_nil_iff.2 fun note hnote => ?_
    rw [(ofOutput_of_readLeading table h).2 note hnote]
    decide
  · rw [hvalue, hskips, length_kept?_add_length_skipped?]

/-- What JSON skips is blank. -/
theorem isAllBlank_of_skipSpace {cs : List Char} (h : Json.skipSpace cs = []) :
    Text.isAllBlank cs = true := by
  refine Text.isAllBlank_iff.2 fun c hc => ?_
  have hspace := List.dropWhile_eq_nil_iff.1 h c hc
  simp only [Json.isSpace, Bool.or_eq_true, beq_iff_eq] at hspace
  rcases hspace with ((rfl | rfl) | rfl) | rfl <;> rfl

/-- Output takes one of three ways. It is blank, and nothing comes of it; or there is no array to
read at its front, and a warning shows it; or there is one, and all of its elements are accounted
for. The second way is not taken for want of any value. -/
theorem ofOutput_accounts (table : LineTable) (output : String) :
    let pass := ofOutput table output
    let blank := Text.isAllBlank output.toList
    ((blank = true ∧ ¬ BeginsWithArray output ∧ pass.value = [] ∧ pass.notes = []) ∨
      (blank = false ∧ ¬ BeginsWithArray output ∧ pass.value = [] ∧ pass.warnings = pass.notes ∧
        ∃ fault, Json.readLeading output.toList = .error fault ∧ pass.notes =
          [.unreadableOutput fault (String.ofList (Text.trim output.toList))]) ∨
      (blank = false ∧ BeginsWithArray output ∧
        ∀ (f : Frame) (es : List Spelling), output = f.output es → (∀ e ∈ es, e.Readable) →
          ∃ vs, es.map Spelling.value? = vs.map some ∧ Accounts table vs f.rest pass)) ∧
    (Json.skipSpace output.toList = [] → blank = true) := by
  refine ⟨?_, isAllBlank_of_skipSpace⟩
  -- Blank output has no array, so the cases are first whether there is one and then blankness.
  by_cases harray : BeginsWithArray output
  · obtain ⟨⟨vs, rest⟩, hr⟩ := beginsWithArray_iff.1 harray
    refine .inr (.inr ⟨not_isAllBlank_of_readLeading hr, harray, ?_⟩)
    rintro f es rfl hes
    obtain ⟨vs, hvs⟩ := exists_map_within_iff.2 hes
    have hread : Json.readLeading (f.output es).toList = .ok (vs, f.rest) := by
      refine Json.readLeading_eq_ok_iff.2 ⟨f, es, ?_, rfl, hvs⟩
      rw [Frame.output, String.toList_ofList]
    refine ⟨vs, ?_, accounts_of_readLeading table hread⟩
    rw [← hvs]
    exact List.map_congr_left fun e he => (if_pos (hes e he).1).symm
  · cases hb : Text.isAllBlank output.toList with
    | true =>
      rw [ofOutput_of_blank table hb]
      exact .inl ⟨rfl, harray, rfl, rfl⟩
    | false =>
      cases hr : Json.readLeading output.toList with
      | ok r => exact absurd (beginsWithArray_iff.2 ⟨r, hr⟩) harray
      | error fault =>
        rw [ofOutput_of_error table hb hr]
        exact .inr (.inl ⟨rfl, harray, rfl, rfl, fault, rfl, rfl⟩)

/-- A no-break space is blank, but JSON does not skip it. -/
example : (ofOutput (.ofText "FROM a") "\xa0[]").warnings.length = 1 := by decide +kernel

end Findings

end DockLint

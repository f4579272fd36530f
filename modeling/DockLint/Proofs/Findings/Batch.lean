import DockLint.Proofs.Findings.Records

/-!
# What an element costs the others

The array is read as a whole before any element is judged. So an element that is no issue costs
nothing but its own record, but one that cannot be read costs all records: `others_eq_iff` says
exactly when the records of the other elements depend on an element.
-/

namespace DockLint

open Outcome

/-- A spelling that can be read as an element of an array: it nests no deeper than is allowed, each
of its numbers has a double and each of its surrogates has its partner. -/
def Json.Spelling.Readable (s : Json.Spelling) : Prop :=
  s.depth ≤ Json.maxNesting - 1 ∧ s.value?.isSome

instance (s : Json.Spelling) : Decidable s.Readable :=
  inferInstanceAs (Decidable (_ ∧ _))

/-- A spelling of an issue. -/
def Json.Spelling.HasIssue (s : Json.Spelling) : Prop :=
  ∃ v i, s.value? = some v ∧ Issue.decode v = .ok i

namespace Findings

open Json (Frame Numeral Piece Spelling)

/-- For each element of the array, its record if it has one. -/
def slots (table : LineTable) (output : String) : List (Option Diagnostic) :=
  ((Json.readLeading output.toList).toOption.map fun r =>
    r.1.map fun v => (ofElement table v).value.toOption).getD []

/-- The records of all elements but element `k`, counted from 0. -/
def others (table : LineTable) (output : String) (k : Nat) : List Diagnostic :=
  ((slots table output).eraseIdx k).filterMap id

theorem filterMap_slots (table : LineTable) (output : String) :
    (slots table output).filterMap id = (ofOutput table output).value := by
  rw [value_ofOutput, slots]
  cases (Json.readLeading output.toList).toOption with
  | none => rfl
  | some r => exact List.filterMap_map

/-- The record of an element as it is spelled. -/
def record? (table : LineTable) (s : Spelling) : Option Diagnostic :=
  (s.within (Json.maxNesting - 1)).bind fun v => (ofElement table v).value.toOption

variable {table : LineTable} {f : Frame} {es front back : List Spelling} {e e' s : Spelling}

theorem isSome_within_iff : (s.within (Json.maxNesting - 1)).isSome ↔ s.Readable := by
  rw [Spelling.within, Spelling.Readable]
  by_cases h : s.depth ≤ Json.maxNesting - 1 <;> simp [h]

theorem isSome_record?_iff (table : LineTable) (h : s.Readable) :
    (record? table s).isSome ↔ s.HasIssue := by
  rw [record?, Spelling.within, if_pos h.1, Spelling.HasIssue, Option.isSome_iff_exists]
  simp only [Option.bind_eq_some_iff, toOption_eq_some_iff, value_ofElement_eq_ok_iff]
  constructor
  · rintro ⟨_, v, hv, i, hi, -⟩
    exact ⟨v, i, hv, hi⟩
  · rintro ⟨v, i, hv, hi⟩
    exact ⟨_, v, hv, i, hi, rfl⟩

theorem slots_eq (table : LineTable) (f : Frame) (es : List Spelling) :
    slots table (f.output es) =
      ((Json.together (es.map (Spelling.within (Json.maxNesting - 1)))).map fun vs =>
        vs.map fun v => (ofElement table v).value.toOption).getD [] := by
  rw [slots, Frame.output, String.toList_ofList, Json.readLeading_text, Option.map_map]
  rfl

/-- If all elements can be read, each has a slot of its own. -/
theorem slots_of_readable (h : ∀ s ∈ es, s.Readable) :
    slots table (f.output es) = es.map (record? table) := by
  obtain ⟨vs, hvs⟩ := Json.exists_together_eq_some
    (List.forall_mem_map.2 fun s hs => isSome_within_iff.2 (h s hs))
  have hmap := Json.together_eq_some_iff.1 hvs
  let judge := fun v => (ofElement table v).value.toOption
  rw [slots_eq, hvs]
  calc vs.map judge
    _ = (vs.map some).map (·.bind judge) := by
      rw [List.map_map]
      rfl
    _ = (es.map (Spelling.within (Json.maxNesting - 1))).map (·.bind judge) := by rw [hmap]
    _ = es.map (record? table) := by
      rw [List.map_map]
      rfl

/-- If one element cannot be read, no element is. -/
theorem slots_of_not_readable (hs : s ∈ es) (h : ¬ s.Readable) :
    slots table (f.output es) = [] := by
  have hnone : s.within (Json.maxNesting - 1) = none := by
    rw [← Option.not_isSome_iff_eq_none, isSome_within_iff]
    exact h
  rw [slots_eq, Json.together_eq_none (hnone ▸ List.mem_map_of_mem hs)]
  rfl

theorem getElem?_slots_iff (table : LineTable) (f : Frame) {es : List Spelling} {k : Nat}
    {d : Diagnostic} : (slots table (f.output es))[k]? = some (some d) ↔
      (∀ e ∈ es, e.Readable) ∧ ∃ e, es[k]? = some e ∧ record? table e = some d := by
  by_cases h : ∀ e ∈ es, e.Readable
  · rw [slots_of_readable h, List.getElem?_map, Option.map_eq_some_iff]
    exact (and_iff_right h).symm
  · obtain ⟨e, he, hn⟩ : ∃ e ∈ es, ¬ e.Readable := by
      simpa using h
    rw [slots_of_not_readable he hn]
    simp [h]

theorem mem_replaced_iff : s ∈ front ++ e :: back ↔ s = e ∨ s ∈ front ++ back :=
  List.perm_middle.mem_iff.trans List.mem_cons

theorem others_of_readable (h : ∀ s ∈ front ++ back, s.Readable) (he : e.Readable) :
    others table (f.output (front ++ e :: back)) front.length =
      (front ++ back).filterMap (record? table) := by
  have hall : ∀ s ∈ front ++ e :: back, s.Readable := by
    intro s hs
    rcases mem_replaced_iff.1 hs with rfl | hs
    · exact he
    · exact h s hs
  rw [others, slots_of_readable hall, List.map_append, List.map_cons,
    List.eraseIdx_append_of_length_le (by simp), List.length_map, Nat.sub_self,
    List.eraseIdx_cons_zero, ← List.map_append, List.filterMap_map]
  rfl

theorem others_of_not_readable (hs : s ∈ es) (h : ¬ s.Readable) (k : Nat) :
    others table (f.output es) k = [] := by
  rw [others, slots_of_not_readable hs h]
  rfl

/-- An element can be read if the records of the others do not change when it takes the place of one
that can. -/
theorem readable_of_others_eq (h : ∀ s ∈ front ++ back, s.Readable)
    (hissue : ∃ s ∈ front ++ back, s.HasIssue) (he : e.Readable)
    (heq : others table (f.output (front ++ e :: back)) front.length =
      others table (f.output (front ++ e' :: back)) front.length) : e'.Readable := by
  refine Classical.byContradiction fun he' => ?_
  have hmem : e' ∈ front ++ e' :: back := mem_replaced_iff.2 (.inl rfl)
  rw [others_of_not_readable hmem he', others_of_readable h he, List.filterMap_eq_nil_iff] at heq
  obtain ⟨s, hs, hi⟩ := hissue
  have hsome := (isSome_record?_iff table (h s hs)).2 hi
  rw [heq s hs] at hsome
  cases hsome

theorem others_eq_nil (hissue : ¬ ∃ s ∈ front ++ back, s.HasIssue) :
    others table (f.output (front ++ e :: back)) front.length = [] := by
  by_cases hall : ∀ s ∈ front ++ e :: back, s.Readable
  · have h : ∀ s ∈ front ++ back, s.Readable := by
      intro s hs
      refine hall s ?_
      rcases List.mem_append.1 hs with hs | hs
      · exact List.mem_append_left _ hs
      · exact List.mem_append_right _ (List.mem_cons_of_mem _ hs)
    rw [others_of_readable h (hall e (by simp)), List.filterMap_eq_nil_iff]
    intro s hs
    rw [← Option.not_isSome_iff_eq_none, isSome_record?_iff table (h s hs)]
    exact fun hi => hissue ⟨s, hs, hi⟩
  · obtain ⟨s, hs, hn⟩ : ∃ s ∈ front ++ e :: back, ¬ s.Readable := by
      simpa using hall
    exact others_of_not_readable hs hn _

/-- When an element is replaced by another, the records of the other elements stay the same unless
one of the two can be read and the other cannot; then all records are lost, if there are any. -/
theorem others_eq_iff (table : LineTable) (f : Frame) (front back : List Spelling)
    (e e' : Spelling) :
    others table (f.output (front ++ e :: back)) front.length =
        others table (f.output (front ++ e' :: back)) front.length ↔
    ((∀ s ∈ front ++ back, s.Readable) → (∃ s ∈ front ++ back, s.HasIssue) →
      (e.Readable ↔ e'.Readable)) := by
  constructor
  · intro heq h hissue
    exact ⟨fun he => readable_of_others_eq h hissue he heq,
      fun he' => readable_of_others_eq h hissue he' heq.symm⟩
  · intro h
    have hself (x : Spelling) : x ∈ front ++ x :: back := mem_replaced_iff.2 (.inl rfl)
    by_cases hall : ∀ s ∈ front ++ back, s.Readable
    · by_cases hissue : ∃ s ∈ front ++ back, s.HasIssue
      · have hiff := h hall hissue
        by_cases he : e.Readable
        · rw [others_of_readable hall he, others_of_readable hall (hiff.1 he)]
        · have he' : ¬ e'.Readable := fun he' => he (hiff.2 he')
          rw [others_of_not_readable (hself e) he, others_of_not_readable (hself e') he']
      · rw [others_eq_nil hissue, others_eq_nil hissue]
    · obtain ⟨s, hs, hn⟩ : ∃ s ∈ front ++ back, ¬ s.Readable := by
        simpa using hall
      have hmem (x : Spelling) : s ∈ front ++ x :: back := mem_replaced_iff.2 (.inr hs)
      rw [others_of_not_readable (hmem e) hn, others_of_not_readable (hmem e') hn]

/-- A number too large for a double takes the record of another element with it. -/
theorem others_lost : ¬ ∀ (table : LineTable) (f : Frame) (front back : List Spelling)
    (e e' : Spelling), others table (f.output (front ++ e :: back)) front.length =
      others table (f.output (front ++ e' :: back)) front.length := by
  intro h
  let one : Numeral := ⟨⟨false, ['1'], none, none⟩, false, false, by decide, nofun, nofun⟩
  let huge : Numeral :=
    ⟨⟨false, ['1'], none, some (false, ['4', '0', '0'])⟩, false, false, by decide, nofun, by decide⟩
  let issue : Spelling := .obj .none [
    (⟨.none, Piece.plains "line".toList (by decide), .none⟩, .num one),
    (⟨.none, Piece.plains "message".toList (by decide), .none⟩, .str [.plain 'm' (by decide)]),
    (⟨.none, Piece.plains "level".toList (by decide), .none⟩,
      .str (Piece.plains "error".toList (by decide)))]
  have hhuge : ¬ (Spelling.num huge).Readable := by decide
  have hissue : ∀ s ∈ [issue] ++ [], s.Readable := by
    intro s hs
    obtain rfl := List.mem_singleton.1 hs
    decide
  have hsame := h (.ofText "FROM a") ⟨.none, .none, []⟩ [issue] [] (.num huge) .null
  rw [others_of_not_readable (by simp) hhuge, others_of_readable hissue (by decide)] at hsame
  exact absurd hsame (by decide)

end Findings

end DockLint

import DockLint.Proofs.Json.Accepted

/-!
# The array at the front of a text

`readLeading_eq_ok_iff`: an array can be read at the front of a text if one whose elements can be
read is spelled there, and only then. So the array is the same with anything behind it
(`readLeading_append`), and none is left when its closing bracket is cut off
(`not_readLeading_of_cut`).
-/

namespace DockLint.Json

open Outcome

/-- The text up to the closing bracket. -/
def Frame.front (f : Frame) (es : List Spelling) : List Char :=
  f.before.chars ++ '[' :: (f.inner.chars ++ joined (Spelling.texts es))

theorem Frame.text_eq_append (f : Frame) (es : List Spelling) :
    f.text es = f.front es ++ ']' :: f.rest := by
  simp [Frame.text, Frame.front]

variable {s t q u w rest : List Char} {vs : List Json}

theorem exists_frame (h : readLeading s = .ok (vs, rest)) :
    ∃ (f : Frame) (es : List Spelling), s = f.text es ∧ f.rest = rest := by
  obtain ⟨t, ht⟩ := skipSpace_of_readLeading h
  obtain ⟨before, hs⟩ := exists_blanks_of_skipSpace ht
  rw [← toOption_eq_some_iff, readLeading, toOption_mapError, leadingArray_array ht,
    toOption_eq_some_iff] at h
  obtain ⟨inner, es, hes⟩ := exists_items (takes_value _ _) h
  refine ⟨⟨before, inner, rest⟩, es, ?_, rfl⟩
  rw [hs, hes, Frame.text, Spelling.texts_eq]
  rfl

theorem readLeading_eq_ok_iff :
    readLeading s = .ok (vs, rest) ↔ ∃ (f : Frame) (es : List Spelling),
      s = f.text es ∧ f.rest = rest ∧ es.map (Spelling.within (maxNesting - 1)) = vs.map some := by
  constructor
  · intro h
    obtain ⟨f, es, rfl, rfl⟩ := exists_frame h
    refine ⟨f, es, rfl, rfl, together_eq_some_iff.1 ?_⟩
    rw [← toOption_eq_some_iff, readLeading_text, Option.map_eq_some_iff] at h
    obtain ⟨ws, hws, he⟩ := h
    rw [hws, (Prod.mk.inj he).1]
  · rintro ⟨f, es, rfl, rfl, hes⟩
    rw [← toOption_eq_some_iff, readLeading_text, together_eq_some_iff.2 hes]
    rfl

/-- The array at the front of a text is the same whatever is put behind it. -/
theorem readLeading_frame {f : Frame} {es : List Spelling}
    (h : readLeading (f.text es) = .ok (vs, f.rest)) (rest : List Char) :
    readLeading (f.front es ++ ']' :: rest) = .ok (vs, rest) := by
  rw [← toOption_eq_some_iff, readLeading_text, Option.map_eq_some_iff] at h
  obtain ⟨ws, hws, he⟩ := h
  have hread := readLeading_text { f with rest := rest } es
  rw [hws, (Prod.mk.inj he).1, Frame.text_eq_append] at hread
  exact toOption_eq_some_iff.1 hread

theorem readLeading_append (h : readLeading s = .ok (vs, rest)) (t : List Char) :
    readLeading (s ++ t) = .ok (vs, rest ++ t) := by
  obtain ⟨f, es, rfl, rfl⟩ := exists_frame h
  rw [Frame.text_eq_append, List.append_assoc]
  exact readLeading_frame h (f.rest ++ t)

/-- A text cut in front of the closing bracket has no array at its front, and it has none with
something else than a bracket behind the cut. -/
theorem not_readLeading_of_cut (h : readLeading (q ++ u) = .ok (vs, rest))
    (hu : rest.length < u.length) (hw : ']' ∉ w) :
    ∃ fault, readLeading (q ++ w) = .error fault := by
  cases hq : readLeading (q ++ w) with
  | error fault => exact ⟨fault, rfl⟩
  | ok r =>
    obtain ⟨ws, r⟩ := r
    obtain ⟨f, es, htext, rfl⟩ := exists_frame hq
    rw [htext] at hq
    -- The bracket is in front of the cut, so the array is read there in the whole text as well.
    obtain ⟨r, hr⟩ : ∃ r, q = f.front es ++ ']' :: r := by
      rw [Frame.text_eq_append] at htext
      rcases List.append_eq_append_iff.1 htext with ⟨a, -, ha⟩ | ⟨a, ha, hrest⟩
      · exact absurd (ha ▸ List.mem_append_right a List.mem_cons_self) hw
      · cases a with
        | nil =>
          rw [List.nil_append] at hrest
          exact absurd (hrest ▸ List.mem_cons_self) hw
        | cons c a =>
          obtain ⟨rfl, -⟩ := List.cons.inj hrest
          exact ⟨a, ha⟩
    have hwhole := readLeading_frame hq (r ++ u)
    rw [hr, List.append_assoc, List.cons_append, hwhole] at h
    obtain rfl : r ++ u = rest := (Prod.mk.inj (Except.ok.inj h)).2
    rw [List.length_append] at hu
    omega

end DockLint.Json

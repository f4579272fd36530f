import DockLint.Proofs.Json.Canonical

/-!
# Members by name

A key may be spelled in more than one way and a name may be given to more than one member.
`exists_lookup_of_valuesOf`: what is read under a name that is spelled once is the value of that
member.
-/

namespace DockLint.Json

theorem lookup_eq_head? (ms : List (String × Json)) (key : String) :
    ms.lookup key = ((ms.filter fun m => m.1 = key).map Prod.snd).head? := by
  induction ms with
  | nil => rfl
  | cons m ms ih =>
    rw [lookup_cons_eq, ih]
    by_cases h : key = m.1
    · rw [if_pos h, List.filter_cons_of_pos (by simp [h])]
      rfl
    · rw [if_neg h, List.filter_cons_of_neg (by simpa using Ne.symm h)]

theorem Piece.eq_nil_of_decode {ps : List Piece} (h : decode ps = some []) : ps = [] := by
  unfold decode at h
  split at h
  · rfl
  · simp at h
  · simp at h
  · split at h
    · split at h
      · split at h <;> simp at h
      · cases h
    · split at h <;> simp at h

/-- Whether the key spells the name. -/
def Key.Names (k : Key) (name : String) : Prop :=
  Piece.decode k.pieces = some name.toList

instance (k : Key) (name : String) : Decidable (k.Names name) :=
  inferInstanceAs (Decidable (_ = _))

namespace Spelling

/-- The pieces of a string. -/
def pieces? : Spelling → Option (List Piece)
  | str ps => some ps
  | padded _ s _ => pieces? s
  | _ => none

/-- What is spelled under a name. -/
def valuesOf (name : String) (ms : List (Key × Spelling)) : List Spelling :=
  (ms.filter fun m => m.1.Names name).map Prod.snd

variable {s : Spelling} {ps : List Piece} {ms : List (Key × Spelling)} {vs : List (String × Json)}
  {name : String} {n : Nat}

theorem within_eq_of_pieces? (h : s.pieces? = some ps) (n : Nat) :
    s.within n = (Piece.decode ps).map fun cs => .str (String.ofList cs) := by
  induction s using Spelling.induction with
  | str qs =>
    obtain rfl := Option.some.inj h
    rfl
  | padded before s after ih => exact ih h
  | _ => cases h

theorem memberWithin_eq_some_iff {m : Key × Spelling} {v : String × Json} :
    memberWithin n m = some v ↔ m.1.Names v.1 ∧ m.2.within n = some v.2 := by
  obtain ⟨key, v⟩ := v
  simp only [memberWithin, Option.bind_eq_some_iff, Option.map_eq_some_iff, Key.Names]
  constructor
  · rintro ⟨cs, hcs, w, hw, heq⟩
    obtain ⟨rfl, rfl⟩ := Prod.mk.inj heq
    exact ⟨by rw [hcs, String.toList_ofList], hw⟩
  · rintro ⟨hkey, hv⟩
    exact ⟨_, hkey, v, hv, by rw [String.ofList_toList]⟩

/-- Members are read under the names that their keys spell. -/
theorem map_within_valuesOf (h : ms.map (memberWithin n) = vs.map some) (name : String) :
    (valuesOf name ms).map (within n) =
      ((vs.filter fun v => v.1 = name).map Prod.snd).map some := by
  induction ms generalizing vs with
  | nil =>
    obtain rfl := List.map_eq_nil_iff.1 h.symm
    rfl
  | cons m ms ih =>
    obtain ⟨v, vs, rfl, hv, hvs⟩ := List.map_eq_cons_iff.1 h.symm
    obtain ⟨hkey, hm⟩ := memberWithin_eq_some_iff.1 hv.symm
    have hname : m.1.Names name ↔ v.1 = name := by
      rw [Key.Names, hkey, Option.some_inj, String.toList_inj]
    rw [valuesOf]
    by_cases hn : v.1 = name
    · rw [List.filter_cons_of_pos (by simpa using hname.2 hn),
        List.filter_cons_of_pos (by simpa using hn)]
      exact congr (congrArg List.cons hm) (ih hvs.symm)
    · rw [List.filter_cons_of_neg (by simpa using fun h => hn (hname.1 h)),
        List.filter_cons_of_neg (by simpa using hn)]
      exact ih hvs.symm

/-- A member that is there once is found. -/
theorem exists_lookup_of_valuesOf (h : ms.map (memberWithin n) = vs.map some)
    (hs : valuesOf name ms = [s]) :
    ∃ v, s.within n = some v ∧ (normalize vs).lookup name = some v := by
  have hvalues := map_within_valuesOf h name
  rw [hs, List.map_singleton] at hvalues
  obtain ⟨v, hv, hw⟩ := List.map_eq_singleton_iff.1 hvalues.symm
  refine ⟨v, hw.symm, ?_⟩
  rw [lookup_normalize_eq, lookup_eq_head?, List.filter_reverse, List.map_reverse, hv]
  rfl

end Spelling

end DockLint.Json

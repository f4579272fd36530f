import DockLint.Proofs.Lint.Pass

/-!
# The most severe finding

Severities are ordered by their rank, which is a linear order with `max` as the larger of two. So
the most severe of a list depends only on which severities are in it (`maximum?_congr`), it can be
found part by part (`maximum?_append`), and it is `error` just if `error` is among them
(`maximum?_eq_error_iff`). `maxSeverity?_severest` says so of the findings of a pass.
-/

namespace DockLint

namespace Severity

variable {s t : Severity} {ss ts : List Severity}

/-! ### The order -/

instance : Std.IsLinearOrder Severity where
  le_refl s := Nat.le_refl s.rank
  le_trans _ _ _ := Nat.le_trans
  le_antisymm _ _ hst hts := rank_injective (Nat.le_antisymm hst hts)
  le_total s t := Nat.le_total s.rank t.rank

instance : Std.LawfulOrderMax Severity where
  max_eq_or s t := by cases s <;> cases t <;> decide
  max_le_iff s t u := by
    show (max s t).rank ≤ u.rank ↔ s.rank ≤ u.rank ∧ t.rank ≤ u.rank
    rw [max_rank]
    exact Nat.max_le

/-- Nothing is less severe than `info` and nothing more severe than `error`. -/
theorem le_iff : s ≤ t ↔ s = .info ∨ s = t ∨ t = .error := by
  cases s <;> cases t <;> decide

theorem le_error (s : Severity) : s ≤ .error :=
  le_iff.2 (.inr (.inr rfl))

/-! ### The most severe of a list -/

theorem maximum?_eq_none_iff : maximum? ss = none ↔ ss = [] :=
  List.max?_eq_none_iff

theorem maximum?_eq_some_iff : maximum? ss = some s ↔ s ∈ ss ∧ ∀ t ∈ ss, t ≤ s :=
  List.max?_eq_some_iff

theorem maximum?_congr (h : ∀ s, s ∈ ss ↔ s ∈ ts) : maximum? ss = maximum? ts := by
  ext s
  simp only [maximum?_eq_some_iff, h]

theorem maximum?_eq_error_iff : maximum? ss = some .error ↔ .error ∈ ss := by
  rw [maximum?_eq_some_iff]
  exact and_iff_left fun t _ => le_error t

/-- If one part is empty, the most severe is that of the other. -/
theorem maximum?_append (ss ts : List Severity) :
    maximum? (ss ++ ts) = max (maximum? ss) (maximum? ts) := by
  cases hs : maximum? ss with
  | none => rw [maximum?_eq_none_iff.1 hs, List.nil_append, Option.max_none_left]
  | some s =>
    cases ht : maximum? ts with
    | none => rw [maximum?_eq_none_iff.1 ht, List.append_nil, hs, Option.max_none_right]
    | some t =>
      obtain ⟨hsmem, hsmax⟩ := maximum?_eq_some_iff.1 hs
      obtain ⟨htmem, htmax⟩ := maximum?_eq_some_iff.1 ht
      rw [Option.max_some_some, maximum?_eq_some_iff]
      refine ⟨?_, fun u hu => ?_⟩
      · rcases (Std.max_eq_or : max s t = s ∨ max s t = t) with h | h <;> rw [h]
        · exact List.mem_append_left ts hsmem
        · exact List.mem_append_right ss htmem
      · rcases List.mem_append.1 hu with hu | hu
        · exact Std.le_trans (hsmax u hu) Std.left_le_max
        · exact Std.le_trans (htmax u hu) Std.right_le_max

end Severity

namespace Report

variable {r r' front back : Report} {s : Severity}

theorem maxSeverity?_eq_none_iff : r.maxSeverity? = none ↔ r.diagnostics = [] := by
  rw [maxSeverity?, Severity.maximum?_eq_none_iff, List.map_eq_nil_iff]

theorem maxSeverity?_eq_some_iff : r.maxSeverity? = some s ↔
    ∃ d ∈ r.diagnostics, d.severity = s ∧ ∀ d' ∈ r.diagnostics, d'.severity ≤ s := by
  rw [maxSeverity?, Severity.maximum?_eq_some_iff, List.mem_map, List.forall_mem_map]
  simp only [exists_and_right, ← and_assoc]

theorem hasErrors_iff_maxSeverity? : r.hasErrors = true ↔ r.maxSeverity? = some .error := by
  rw [Lint.hasErrors_iff, maxSeverity?, Severity.maximum?_eq_error_iff, List.mem_map]

theorem maxSeverity?_perm (h : r.diagnostics.Perm r'.diagnostics) :
    r.maxSeverity? = r'.maxSeverity? :=
  Severity.maximum?_congr fun _ => (h.map _).mem_iff

theorem hasErrors_perm (h : r.diagnostics.Perm r'.diagnostics) : r.hasErrors = r'.hasErrors := by
  rw [Bool.eq_iff_iff, hasErrors_iff_maxSeverity?, hasErrors_iff_maxSeverity?, maxSeverity?_perm h]

theorem maxSeverity?_append (h : r.diagnostics = front.diagnostics ++ back.diagnostics) :
    r.maxSeverity? = max front.maxSeverity? back.maxSeverity? := by
  rw [maxSeverity?, h, List.map_append, Severity.maximum?_append]
  rfl

theorem hasErrors_append (h : r.diagnostics = front.diagnostics ++ back.diagnostics) :
    r.hasErrors = (front.hasErrors || back.hasErrors) := by
  rw [hasErrors, h, List.any_append]
  rfl

/-- The severity of a pass without findings is none, and that of any other is the severity of one of
them that no other exceeds. It is `error` just if the pass has errors. Neither depends on the order
of the findings, and both are found from those of two parts, whichever findings each part has. -/
theorem maxSeverity?_severest (r : Report) :
    (∀ s t : Severity, s ≤ t ↔ s = .info ∨ s = t ∨ t = .error) ∧
    (r.maxSeverity? = none ↔ r.diagnostics = []) ∧
    (∀ s, r.maxSeverity? = some s ↔
      ∃ d ∈ r.diagnostics, d.severity = s ∧ ∀ d' ∈ r.diagnostics, d'.severity ≤ s) ∧
    (r.hasErrors = true ↔ r.maxSeverity? = some .error) ∧
    (∀ r' : Report, r.diagnostics.Perm r'.diagnostics →
      r'.maxSeverity? = r.maxSeverity? ∧ r'.hasErrors = r.hasErrors) ∧
    ∀ front back : Report, r.diagnostics.Perm (front.diagnostics ++ back.diagnostics) →
      r.maxSeverity? = max front.maxSeverity? back.maxSeverity? ∧
        (r.hasErrors = true ↔ front.hasErrors = true ∨ back.hasErrors = true) := by
  refine ⟨fun _ _ => Severity.le_iff, maxSeverity?_eq_none_iff, fun _ => maxSeverity?_eq_some_iff,
    hasErrors_iff_maxSeverity?, fun r' h => ⟨(maxSeverity?_perm h).symm, (hasErrors_perm h).symm⟩,
    fun front back h => ?_⟩
  let whole : Report := ⟨r.outcome, front.diagnostics ++ back.diagnostics⟩
  have hperm : r.diagnostics.Perm whole.diagnostics := h
  have hwhole : whole.diagnostics = front.diagnostics ++ back.diagnostics := rfl
  rw [maxSeverity?_perm hperm, hasErrors_perm hperm, maxSeverity?_append hwhole,
    hasErrors_append hwhole, Bool.or_eq_true]
  exact ⟨rfl, Iff.rfl⟩

end Report

end DockLint

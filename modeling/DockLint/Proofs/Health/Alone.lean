import Mathlib.Data.List.DropRight
import DockLint.Proofs.Health.Version
import DockLint.Proofs.Text.Blank

/-!
# A version that stands alone

A version closes at a word boundary, and where a word follows it directly that boundary is the
word's beginning: then the version ends with a point or a hyphen (`Occurrence.In.unmarked_iff`). A
text that is a version and nothing else has no word behind it, and what is found in it is the
version without the points and hyphens at its end (`version?_of_isVersion`). So reading a version
that was found gives it back just if no word followed it in its text, and reading it twice is
enough (`version?_again`).
-/

namespace DockLint.Health

open Pattern

variable {w front back : List Char} {c : Char} {text v : String}

/-! ### Points and hyphens at the end -/

/-- A character of a version that is no letter or digit. -/
def isMark (c : Char) : Bool :=
  c == '.' || c == '-'

/-- A text without the points and hyphens at its end. -/
def unmarked (w : List Char) : List Char :=
  w.rdropWhile isMark

theorem exists_unmarked_append (w : List Char) :
    ∃ marks, w = unmarked w ++ marks ∧ ∀ c ∈ marks, isMark c = true :=
  ⟨w.rtakeWhile isMark, List.rdropWhile_append_rtakeWhile.symm, fun _ => List.mem_rtakeWhile_imp⟩

theorem isMark_of_getLast?_unmarked (h : (unmarked w).getLast? = some c) : isMark c = false :=
  Text.eq_false_of_getLast?_rdropWhile h

theorem unmarked_append (hfront : ∀ c, front.getLast? = some c → isMark c = false)
    (hback : ∀ c ∈ back, isMark c = true) : unmarked (front ++ back) = front :=
  Text.rdropWhile_append hfront hback

/-! ### Characters of a version -/

theorem isMark_of_isDigit (h : Unicode.isDigit c = true) : isMark c = false := by
  rw [isMark, Bool.or_eq_false_iff, beq_eq_false_iff_ne, beq_eq_false_iff_ne]
  constructor <;> rintro rfl <;> exact absurd h (by decide)

theorem toNat_lt_of_isAlphanum (h : c.isAlphanum = true) : c.toNat < 128 := by
  have hkind : (c.isUpper || c.isLower || c.isDigit) = true := h
  simp only [Bool.or_eq_true] at hkind
  rcases hkind with (hupper | hlower) | hdigit
  · have : 65 ≤ c.toNat ∧ c.toNat ≤ 90 := of_decide_eq_true hupper
    omega
  · have : c.toNat ≤ 122 := of_decide_eq_true (Bool.and_eq_true_iff.mp hlower).2
    omega
  · have : c.toNat ≤ 57 := of_decide_eq_true (Bool.and_eq_true_iff.mp hdigit).2
    omega

/-- A character of a suffix belongs to a word unless it is a point or a hyphen. -/
theorem isWord_of_isSuffixChar (h : isSuffixChar c = true) : Unicode.isWord c = !isMark c := by
  have hascii : ∀ n < 128, isSuffixChar (Char.ofNat n) = true →
      Unicode.isWord (Char.ofNat n) = !isMark (Char.ofNat n) := by decide +kernel
  have hlt : c.toNat < 128 := by
    rcases Bool.or_eq_true_iff.mp h with h | h
    · rcases Bool.or_eq_true_iff.mp h with h | h
      · exact toNat_lt_of_isAlphanum h
      · rw [eq_of_beq h]
        decide
    · rw [eq_of_beq h]
      decide
  have hc := hascii c.toNat hlt
  rw [Char.ofNat_toNat] at hc
  exact hc h

theorem any_isWord_of_marks {marks : List Char} (h : ∀ c ∈ marks, isMark c = true) :
    marks.head?.any Unicode.isWord = false := by
  cases marks with
  | nil => rfl
  | cons c marks =>
    have hc := h c List.mem_cons_self
    rw [List.head?_cons, Option.any_some]
    rcases Bool.or_eq_true_iff.mp hc with hc | hc <;> rw [eq_of_beq hc] <;> decide

theorem exists_getLast?_of_isRun {p : Char → Bool} (h : IsRun p w) :
    ∃ c, w.getLast? = some c ∧ p c = true :=
  ⟨w.getLast h.1, List.getLast?_eq_some_getLast h.1, h.2 _ (List.getLast_mem h.1)⟩

/-- A version is made of its numbers, the last character of which is a digit, and of a suffix; with
any other suffix they are a version too. -/
theorem IsVersion.exists_suffix (h : IsVersion w) : ∃ numbers suffix, w = numbers ++ suffix ∧
    (∃ c, numbers.getLast? = some c ∧ Unicode.isDigit c = true) ∧ IsPart '-' isSuffixChar suffix ∧
    ∀ other, IsPart '-' isSuffixChar other → IsVersion (numbers ++ other) := by
  obtain ⟨major, minor, patch, suffix, hmajor, hminor, hpatch, hsuffix, rfl⟩ := h
  refine ⟨major ++ '.' :: (minor ++ patch), suffix, by simp, ?_, hsuffix, fun other hother =>
    ⟨major, minor, patch, other, hmajor, hminor, hpatch, hother, by simp⟩⟩
  obtain ⟨c, hc, hdigit⟩ := exists_getLast?_of_isRun hminor
  rcases hpatch with rfl | ⟨u, hu, rfl⟩
  · exact ⟨c, by simp [List.getLast?_cons, hc], hdigit⟩
  · obtain ⟨d, hd, hdigit⟩ := exists_getLast?_of_isRun hu
    exact ⟨d, by simp [List.getLast?_cons, hd], hdigit⟩

/-- The last character of a version belongs to a word unless it is a point or a hyphen. -/
theorem IsVersion.exists_getLast? (h : IsVersion w) :
    ∃ c, w.getLast? = some c ∧ Unicode.isWord c = !isMark c := by
  obtain ⟨numbers, suffix, rfl, ⟨c, hc, hdigit⟩, rfl | ⟨u, hu, rfl⟩, -⟩ := h.exists_suffix
  · refine ⟨c, by simp [hc], ?_⟩
    rw [Unicode.isWord_of_isDigit hdigit, isMark_of_isDigit hdigit]
    rfl
  · obtain ⟨d, hd, hsuffix⟩ := exists_getLast?_of_isRun hu
    exact ⟨d, by simp [List.getLast?_cons, hd], isWord_of_isSuffixChar hsuffix⟩

/-- Points and hyphens at the end of a version can be left off. -/
theorem isVersion_unmarked (h : IsVersion w) : IsVersion (unmarked w) := by
  obtain ⟨numbers, suffix, rfl, ⟨c, hc, hdigit⟩, hsuffix, hother⟩ := h.exists_suffix
  have hnumbers : ∀ x, numbers.getLast? = some x → isMark x = false := by
    intro x hx
    obtain rfl := Option.some.inj (hc.symm.trans hx)
    exact isMark_of_isDigit hdigit
  rcases hsuffix with rfl | ⟨u, ⟨-, hu⟩, rfl⟩
  · rw [unmarked_append hnumbers (by simp)]
    simpa using hother [] (.inl rfl)
  · obtain ⟨marks, heq, hmarks⟩ := exists_unmarked_append u
    by_cases hnil : unmarked u = []
    · -- The suffix is nothing but marks and goes as a whole.
      rw [hnil, List.nil_append] at heq
      rw [unmarked_append hnumbers, ← List.append_nil numbers]
      · exact hother [] (.inl rfl)
      · exact List.forall_mem_cons.mpr ⟨by decide, heq ▸ hmarks⟩
    · have hrun : IsRun isSuffixChar (unmarked u) :=
        ⟨hnil, fun x hx => hu x (heq ▸ List.mem_append_left marks hx)⟩
      have hw : numbers ++ '-' :: u = (numbers ++ '-' :: unmarked u) ++ marks := by
        rw [List.append_assoc, List.cons_append, ← heq]
      rw [hw, unmarked_append _ hmarks]
      · exact hother _ (.inr ⟨_, hrun, rfl⟩)
      · intro x hx
        obtain ⟨d, hd, -⟩ := exists_getLast?_of_isRun hrun
        refine isMark_of_getLast?_unmarked (w := u) ?_
        simpa [List.getLast?_cons, hd] using hx

/-- A word follows a version just if the version ends with points or hyphens. -/
theorem Occurrence.In.unmarked_iff {o : Occurrence} {s : List Char} (h : o.In s) :
    unmarked o.version = o.version ↔ o.back.head?.any Unicode.isWord = false := by
  obtain ⟨c, hc, hword⟩ := h.version.exists_getLast?
  have hcloses := h.closes
  rw [IsBoundary, List.getLast?_append, List.getLast?_append, hc, Option.some_or, Option.some_or,
    Option.any_some, hword] at hcloses
  have hself : unmarked o.version = o.version ↔ isMark c = false := by
    constructor
    · intro heq
      exact isMark_of_getLast?_unmarked (heq.symm ▸ hc)
    · intro hmark
      refine List.rdropWhile_eq_self_iff.mpr fun hne => ?_
      rw [List.getLast?_eq_some_getLast hne] at hc
      rw [Option.some.inj hc, hmark]
      exact Bool.false_ne_true
  rw [hself]
  cases hmark : isMark c <;> cases hback : o.back.head?.any Unicode.isWord <;> simp_all

/-! ### Read again -/

theorem in_unmarked_append {marks : List Char} (h : IsVersion w) (hw : w = unmarked w ++ marks)
    (hmarks : ∀ c ∈ marks, isMark c = true) : Occurrence.In ⟨[], [], unmarked w, marks⟩ w := by
  refine ⟨hw, .inl rfl, isVersion_unmarked h, ?_, ?_⟩
  · obtain ⟨x, u, hx, hdigit⟩ := h.exists_cons
    show IsBoundary [] (unmarked w ++ marks)
    rw [← hw, hx, IsBoundary]
    simp [Unicode.isWord_of_isDigit hdigit]
  · obtain ⟨c, hc, hword⟩ := (isVersion_unmarked h).exists_getLast?
    show IsBoundary (unmarked w) marks
    rw [IsBoundary, any_isWord_of_marks hmarks, hc, Option.any_some, hword,
      isMark_of_getLast?_unmarked hc]
    decide

/-- A version that stands alone is found without the points and hyphens at its end. -/
theorem version?_of_isVersion (h : IsVersion w) :
    version? (String.ofList w) = some (String.ofList (unmarked w)) := by
  obtain ⟨marks, hw, hmarks⟩ := exists_unmarked_append w
  have hin := in_unmarked_append h hw hmarks
  refine version?_eq_some_iff.mpr ⟨⟨[], [], unmarked w, marks⟩, ?_, rfl⟩
  rw [String.toList_ofList]
  refine ⟨hin, fun _ _ => Nat.zero_le _, fun o ho hlen => ?_⟩
  obtain ⟨hfront, hsign⟩ := ho.sign_eq hin hlen
  obtain ⟨front, sign, version, back⟩ := o
  obtain rfl : front = [] := hfront
  obtain rfl : sign = [] := hsign
  by_contra hlong
  -- A longer version ends with a mark and has none but marks behind it, so it ends at no boundary.
  have hlt : (unmarked w).length < version.length := Nat.lt_of_not_le hlong
  have htext : unmarked w ++ marks = version ++ back := hw.symm.trans ho.text
  obtain ⟨more, rfl⟩ : unmarked w <+: version :=
    List.prefix_of_prefix_length_le ⟨marks, rfl⟩ ⟨back, htext.symm⟩ hlt.le
  rw [List.append_assoc] at htext
  obtain rfl : marks = more ++ back := List.append_cancel_left htext
  have hne : more ≠ [] := by
    rintro rfl
    simp at hlt
  have hmark : isMark (more.getLast hne) = true :=
    hmarks _ (List.mem_append_left _ (List.getLast_mem hne))
  have hself : unmarked (unmarked w ++ more) = unmarked w ++ more :=
    ho.unmarked_iff.mpr (any_isWord_of_marks fun c hc => hmarks c (List.mem_append_right _ hc))
  have hlast : (unmarked w ++ more).getLast? = some (more.getLast hne) := by
    rw [List.getLast?_append, List.getLast?_eq_some_getLast hne, Option.some_or]
  have hnot := isMark_of_getLast?_unmarked (hself.symm ▸ hlast)
  rw [hmark] at hnot
  cases hnot

/-- A version that was found is found again in itself without the points and hyphens at its end,
and no more of it is lost when that is read once more. It is found as it is just if no word
followed it in the text. -/
theorem version?_again (h : version? text = some v) :
    (∃ v', version? v = some v' ∧ v'.toList = unmarked v.toList ∧ version? v' = some v') ∧
      ∃ o : Occurrence, o.LeftmostLongest text.toList ∧ v = String.ofList o.version ∧
        (version? v = some v ↔ o.back.head?.any Unicode.isWord = false) := by
  obtain ⟨o, ho, rfl⟩ := version?_eq_some_iff.mp h
  have hversion := ho.occurs.version
  have hagain := version?_of_isVersion hversion
  refine ⟨⟨_, hagain, by simp, ?_⟩, o, ho, rfl, ?_⟩
  · rw [version?_of_isVersion (isVersion_unmarked hversion)]
    exact congrArg (some <| String.ofList ·) (List.rdropWhile_idempotent isMark o.version)
  · rw [hagain, ← ho.occurs.unmarked_iff, Option.some_inj, String.ofList_inj]

/-- The suffix ends in front of an underscore, which no suffix holds but a word may begin with. -/
theorem version?_again_cut : version? "hadolint 2.8-rc._1" = some "2.8-rc." ∧
    (∃ v', version? "2.8-rc." = some v' ∧ v'.toList = "2.8-rc".toList ∧ version? v' = some v') := by
  have hcut : unmarked "2.8-rc.".toList = "2.8-rc".toList := by decide +kernel
  have hfound : version? "hadolint 2.8-rc._1" = some "2.8-rc." := by decide +kernel
  obtain ⟨⟨v', hv', heq, hagain⟩, -⟩ := version?_again hfound
  exact ⟨hfound, v', hv', heq.trans hcut, hagain⟩

/-- Not every version that is found is found again as it is. -/
theorem not_forall_version?_again :
    ¬ ∀ text v : String, version? text = some v → version? v = some v := by
  have hfound : version? "hadolint 2.8-rc._1" = some "2.8-rc." := by decide +kernel
  have hcut : version? "2.8-rc." = some "2.8-rc" := by decide +kernel
  intro h
  have hagain := hcut.symm.trans (h _ _ hfound)
  exact absurd (Option.some.inj hagain) (by decide)

end DockLint.Health

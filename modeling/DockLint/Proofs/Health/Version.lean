import DockLint.Health
import DockLint.Proofs.Pattern

/-!
# Which version is found in a text

`IsVersion` says what a version looks like and `Occurrence.In` where one stands in a text: between
two word boundaries, with a `v` in front of it or without. Of the versions that start at one place
`versionPattern` prefers the longest (`furthestFirst_versionPattern`), although it only asks its
parts to be as long as they can: a shorter number leaves the pattern between two digits, where
nothing that may follow matches (`stuck_afterMinor`), and without the third number it can only end
in front of the point. So the version that is found is the first one in the text, and the longest
one there (`version?_eq_some_iff`).
-/

namespace DockLint.Health

open Cursor Pattern

variable {c d e : Cursor} {s w front : List Char} {mark : Char} {p : Char → Bool} {text : String}

/-! ### What a version looks like -/

/-- A part of a version that may be missing: a mark and a run of characters of one class. -/
def IsPart (mark : Char) (p : Char → Bool) (w : List Char) : Prop :=
  w = [] ∨ ∃ u, IsRun p u ∧ w = mark :: u

def IsVersion (w : List Char) : Prop :=
  ∃ major minor patch suffix, IsRun Unicode.isDigit major ∧ IsRun Unicode.isDigit minor ∧
    IsPart '.' Unicode.isDigit patch ∧ IsPart '-' isSuffixChar suffix ∧
    w = major ++ '.' :: (minor ++ (patch ++ suffix))

theorem IsVersion.exists_cons (h : IsVersion w) : ∃ x u, w = x :: u ∧ Unicode.isDigit x = true := by
  obtain ⟨major, minor, patch, suffix, ⟨hne, hdigits⟩, -, -, -, rfl⟩ := h
  obtain ⟨x, u, rfl⟩ := List.exists_cons_of_ne_nil hne
  exact ⟨x, _, List.cons_append, hdigits x List.mem_cons_self⟩

/-- Exactly one of the characters next to the place between two texts is a word character. -/
def IsBoundary (front back : List Char) : Prop :=
  front.getLast?.any Unicode.isWord ≠ back.head?.any Unicode.isWord

/-- A place in a text where a version may stand, and the sign in front of it. -/
structure Occurrence where
  front : List Char
  sign : List Char
  version : List Char
  back : List Char

namespace Occurrence

structure In (o : Occurrence) (s : List Char) : Prop where
  text : s = o.front ++ (o.sign ++ (o.version ++ o.back))
  sign : o.sign = [] ∨ o.sign = ['v']
  version : IsVersion o.version
  opens : IsBoundary o.front (o.sign ++ (o.version ++ o.back))
  closes : IsBoundary (o.front ++ (o.sign ++ o.version)) o.back

def length (o : Occurrence) : Nat :=
  (o.sign ++ o.version).length

structure LeftmostLongest (o : Occurrence) (s : List Char) : Prop where
  occurs : o.In s
  leftmost : ∀ o' : Occurrence, o'.In s → o.front.length ≤ o'.front.length
  longest : ∀ o' : Occurrence, o'.In s → o'.front.length = o.front.length → o'.length ≤ o.length

variable {o o' : Occurrence}

/-- Whether there is a sign is decided by the place alone: a version does not begin with a `v`. -/
theorem In.sign_eq (h : o.In s) (h' : o'.In s) (hlen : o.front.length = o'.front.length) :
    o.front = o'.front ∧ o.sign = o'.sign := by
  obtain ⟨hfront, hrest⟩ := List.append_inj (h.text.symm.trans h'.text) hlen
  refine ⟨hfront, ?_⟩
  obtain ⟨x, u, hx, hdigit⟩ := h.version.exists_cons
  obtain ⟨x', u', hx', hdigit'⟩ := h'.version.exists_cons
  have hv : Unicode.isDigit 'v' = false := by decide
  rw [hx, hx'] at hrest
  rcases h.sign with hs | hs <;> rcases h'.sign with hs' | hs' <;> rw [hs, hs'] at hrest ⊢
  · obtain rfl : x = 'v' := (List.cons.inj hrest).1
    rw [hdigit] at hv
    contradiction
  · obtain rfl : 'v' = x' := (List.cons.inj hrest).1
    rw [hdigit'] at hv
    contradiction

theorem LeftmostLongest.version_eq (h : o.LeftmostLongest s) (h' : o'.LeftmostLongest s) :
    o.version = o'.version := by
  have hfront := Nat.le_antisymm (h.leftmost o' h'.occurs) (h'.leftmost o h.occurs)
  obtain ⟨hf, hsign⟩ := h.occurs.sign_eq h'.occurs hfront
  have hlen := Nat.le_antisymm (h'.longest o h.occurs hfront) (h.longest o' h'.occurs hfront.symm)
  have htext := h.occurs.text.symm.trans h'.occurs.text
  rw [hf, hsign] at htext
  rw [length, length, hsign, List.length_append, List.length_append] at hlen
  exact (List.append_inj (List.append_cancel_left (List.append_cancel_left htext)) (by omega)).1

end Occurrence

/-! ### What the patterns match -/

theorem matches_part_iff : (optional (.seq (char mark) (oneOrMore p))).Matches c e ↔
    ∃ w, IsPart mark p w ∧ c.Moves w e := by
  simp only [matches_optional_iff, matches_seq_iff, matches_char_iff, matches_oneOrMore_iff]
  constructor
  · rintro (⟨d, hd, u, hu, hde⟩ | rfl)
    · exact ⟨mark :: u, Or.inr ⟨u, hu, rfl⟩, moves_append_iff.mpr ⟨d, hd, hde⟩⟩
    · exact ⟨[], Or.inl rfl, moves_nil_iff.mpr rfl⟩
  · rintro ⟨_, rfl | ⟨u, hu, rfl⟩, h⟩
    · exact Or.inr (moves_nil_iff.mp h)
    · obtain ⟨d, hd, hde⟩ := moves_append_iff (w := [mark]).mp h
      exact Or.inl ⟨d, hd, u, hu, hde⟩

/-- What a version ends with. -/
def closing : Pattern :=
  .seq .boundary .empty

def afterPatch : Pattern :=
  .seq (.optional (.seq (.char '-') (.oneOrMore isSuffixChar))) closing

def afterMinor : Pattern :=
  .seq (.optional (.seq (.char '.') number)) afterPatch

theorem versionPattern_eq :
    versionPattern = .seq number (.seq (.char '.') (.seq number afterMinor)) :=
  rfl

theorem matches_closing_iff : closing.Matches c d ↔ c.atBoundary = true ∧ d = c := by
  simp only [closing, matches_seq_iff, matches_boundary_iff, matches_empty_iff]
  constructor
  · rintro ⟨_, ⟨h, rfl⟩, rfl⟩
    exact ⟨h, rfl⟩
  · rintro ⟨h, rfl⟩
    exact ⟨_, ⟨h, rfl⟩, rfl⟩

theorem matches_versionPattern_iff : versionPattern.Matches c e ↔
    ∃ w, IsVersion w ∧ c.Moves w e ∧ e.atBoundary = true := by
  rw [versionPattern_eq, afterMinor, afterPatch, number]
  simp only [matches_seq_iff, matches_part_iff, matches_closing_iff, matches_char_iff,
    matches_oneOrMore_iff]
  constructor
  · rintro ⟨c₁, ⟨major, hmajor, h₁⟩, c₂, h₂, c₃, ⟨minor, hminor, h₃⟩, c₄, ⟨patch, hpatch, h₄⟩,
      e, ⟨suffix, hsuffix, h₅⟩, hend, rfl⟩
    refine ⟨_, ⟨major, minor, patch, suffix, hmajor, hminor, hpatch, hsuffix, rfl⟩, ?_, hend⟩
    have htail := moves_append_iff.mpr ⟨c₃, h₃, moves_append_iff.mpr ⟨c₄, h₄, h₅⟩⟩
    exact moves_append_iff.mpr ⟨c₁, h₁, moves_append_iff.mpr ⟨c₂, h₂, htail⟩⟩
  · rintro ⟨_, ⟨major, minor, patch, suffix, hmajor, hminor, hpatch, hsuffix, rfl⟩, h, hend⟩
    obtain ⟨c₁, h₁, h⟩ := moves_append_iff.mp h
    obtain ⟨c₂, h₂, h⟩ := moves_append_iff (w := ['.']).mp h
    obtain ⟨c₃, h₃, h⟩ := moves_append_iff.mp h
    obtain ⟨c₄, h₄, h₅⟩ := moves_append_iff.mp h
    exact ⟨c₁, ⟨major, hmajor, h₁⟩, c₂, h₂, c₃, ⟨minor, hminor, h₃⟩, c₄, ⟨patch, hpatch, h₄⟩, e,
      ⟨suffix, hsuffix, h₅⟩, hend, rfl⟩

theorem matches_versionStart_iff : versionStart.Matches c d ↔
    c.atBoundary = true ∧ ∃ sign, (sign = [] ∨ sign = ['v']) ∧ c.Moves sign d := by
  simp only [versionStart, matches_seq_iff, matches_boundary_iff, matches_optional_iff,
    matches_char_iff]
  constructor
  · rintro ⟨_, ⟨h, rfl⟩, hd | rfl⟩
    · exact ⟨h, ['v'], Or.inr rfl, hd⟩
    · exact ⟨h, [], Or.inl rfl, moves_nil_iff.mpr rfl⟩
  · rintro ⟨h, _, rfl | rfl, hd⟩
    · exact ⟨c, ⟨h, rfl⟩, Or.inr (moves_nil_iff.mp hd)⟩
    · exact ⟨c, ⟨h, rfl⟩, Or.inl hd⟩

/-! ### The longest match is preferred -/

theorem stuck_closing : Stuck Unicode.isDigit closing :=
  (stuck_boundary fun _ => Unicode.isWord_of_isDigit).seq

theorem stuck_afterPatch : Stuck Unicode.isDigit afterPatch :=
  (stuck_char (by decide)).seq.optional_seq stuck_closing

theorem stuck_afterMinor : Stuck Unicode.isDigit afterMinor :=
  (stuck_char (by decide)).seq.optional_seq stuck_afterPatch

theorem furthestFirst_closing : FurthestFirst (closing.ends c) := by
  rw [closing, ends, ends]
  split
  · exact List.pairwise_singleton _ _
  · exact List.Pairwise.nil

theorem furthestFirst_afterPatch : FurthestFirst (afterPatch.ends c) := by
  refine furthestFirst_optional_seq ?_ furthestFirst_closing fun e e' he he' => ?_
  · rw [ends_seq_assoc]
    exact furthestFirst_one_seq fun d _ => furthestFirst_seq_of_stays
      (furthestFirst_runEnds isSuffixChar d.rest) (fun _ _ h => (matches_closing_iff.mp h).2)
      (fun _ => furthestFirst_closing)
  · obtain ⟨-, rfl⟩ := matches_closing_iff.mp he'
    exact length_lt_of_matches_one_seq he

/-- In front of a point nothing can follow the second number but the end of the version. -/
theorem eq_of_matches_afterPatch (hd : c.Moves ['.'] d) (h : afterPatch.Matches c e) : e = c := by
  obtain ⟨e', he', hclosing⟩ := matches_seq_iff.mp h
  obtain ⟨-, rfl⟩ := matches_closing_iff.mp hclosing
  rcases matches_optional_iff.mp he' with he' | rfl
  · obtain ⟨d', hd', -⟩ := matches_seq_iff.mp he'
    have hrest := hd.rest.symm.trans (matches_char_iff.mp hd').rest
    exact absurd (List.cons.inj hrest).1 (by decide)
  · rfl

theorem furthestFirst_afterMinor : FurthestFirst (afterMinor.ends c) := by
  refine furthestFirst_optional_seq ?_ furthestFirst_afterPatch fun e e' he he' => ?_
  · rw [ends_seq_assoc]
    exact furthestFirst_one_seq fun _ _ =>
      furthestFirst_run_seq stuck_afterPatch fun _ _ => furthestFirst_afterPatch
  · -- With a third number behind the second, a version without it ends where the point stands.
    obtain ⟨d, hd, -⟩ := matches_seq_iff.mp he
    obtain ⟨d', hd', -⟩ := matches_seq_iff.mp hd
    obtain rfl := eq_of_matches_afterPatch (matches_char_iff.mp hd') he'
    exact length_lt_of_matches_one_seq he

theorem furthestFirst_versionPattern : FurthestFirst (versionPattern.ends c) := by
  rw [versionPattern_eq]
  refine furthestFirst_run_seq (stuck_char (by decide)).seq fun _ _ => ?_
  refine furthestFirst_one_seq fun _ _ => ?_
  exact furthestFirst_run_seq stuck_afterMinor fun _ _ => furthestFirst_afterMinor

/-! ### The version that is found -/

theorem atBoundary_iff (h : Moves ⟨none, s⟩ front c) :
    c.atBoundary = true ↔ IsBoundary front c.rest := by
  rw [atBoundary, bne_iff_ne, h.before, Option.or_none]
  exact Iff.rfl

theorem Occurrence.In.exists_matches {o : Occurrence} (h : o.In s) :
    ∃ c d e, Moves ⟨none, s⟩ o.front c ∧ c.Moves o.sign d ∧ d.Moves o.version e ∧
      versionStart.Matches c d ∧ versionPattern.Matches d e := by
  obtain ⟨e, he, hback⟩ : ∃ e, Moves ⟨none, s⟩ (o.front ++ (o.sign ++ o.version)) e ∧
      e.rest = o.back := by
    refine ⟨⟨_, o.back⟩, ⟨?_, rfl⟩, rfl⟩
    simp only [h.text, List.append_assoc]
  obtain ⟨c, hc, h'⟩ := moves_append_iff.mp he
  obtain ⟨d, hd, hde⟩ := moves_append_iff.mp h'
  have hrest : c.rest = o.sign ++ (o.version ++ o.back) := by rw [hd.rest, hde.rest, hback]
  have hopens := (atBoundary_iff hc).mpr (hrest ▸ h.opens)
  have hcloses := (atBoundary_iff he).mpr (hback ▸ h.closes)
  exact ⟨c, d, e, hc, hd, hde, matches_versionStart_iff.mpr ⟨hopens, o.sign, h.sign, hd⟩,
    matches_versionPattern_iff.mpr ⟨o.version, h.version, hde, hcloses⟩⟩

theorem exists_in_of_matches (hc : Moves ⟨none, s⟩ front c) (hd : versionStart.Matches c d)
    (he : versionPattern.Matches d e) :
    ∃ o : Occurrence, o.In s ∧ o.front = front ∧ c.Moves o.sign d ∧ d.Moves o.version e := by
  obtain ⟨hopens, sign, hsign, hcd⟩ := matches_versionStart_iff.mp hd
  obtain ⟨version, hversion, hde, hcloses⟩ := matches_versionPattern_iff.mp he
  have hend := moves_append_iff.mpr ⟨c, hc, moves_append_iff.mpr ⟨d, hcd, hde⟩⟩
  have hrest : c.rest = sign ++ (version ++ e.rest) := by rw [hcd.rest, hde.rest]
  refine ⟨⟨front, sign, version, e.rest⟩, ⟨?_, hsign, hversion, ?_, ?_⟩, rfl, hcd, hde⟩
  · rw [← hrest]
    exact hc.rest
  · exact hrest ▸ (atBoundary_iff hc).mp hopens
  · exact (atBoundary_iff hend).mp hcloses

theorem version?_eq_none_iff : version? text = none ↔ ∀ o : Occurrence, ¬ o.In text.toList := by
  rw [version?, Option.map_eq_none_iff, find?_eq_none_iff]
  constructor
  · intro h o ho
    obtain ⟨c, d, e, hc, -, -, hd, he⟩ := ho.exists_matches
    exact h c (mem_all_iff.mpr ⟨o.front, hc⟩) d e hd he
  · intro h c hc d e hd he
    obtain ⟨front, hfront⟩ := mem_all_iff.mp hc
    obtain ⟨o, ho, -⟩ := exists_in_of_matches hfront hd he
    exact h o ho

theorem exists_leftmostLongest_of_version? {v : String} (h : version? text = some v) :
    ∃ o : Occurrence, o.LeftmostLongest text.toList ∧ v = String.ofList o.version := by
  obtain ⟨w, hfind, rfl⟩ := Option.map_eq_some_iff.mp h
  obtain ⟨c, d, e, hc, hd, hhead, rfl, hleft⟩ := exists_of_find? hfind
  obtain ⟨he, hlong⟩ := (head?_ends_iff furthestFirst_versionPattern).mp hhead
  obtain ⟨front, hfront⟩ := mem_all_iff.mp hc
  obtain ⟨o, ho, rfl, hcd, hde⟩ := exists_in_of_matches hfront hd he
  refine ⟨o, ⟨ho, fun o' ho' => ?_, fun o' ho' hlen => ?_⟩, congrArg _ hde.between_eq⟩
  · obtain ⟨c', d', e', hc', -, -, hd', he'⟩ := ho'.exists_matches
    have hle := hleft c' (mem_all_iff.mpr ⟨o'.front, hc'⟩) d' e' hd' he'
    have hlen := hfront.length_eq
    have hlen' := hc'.length_eq
    omega
  · obtain ⟨c', d', e', hc', hd', hde', -, he'⟩ := ho'.exists_matches
    obtain ⟨hf, hsign⟩ := ho'.sign_eq ho hlen
    rw [hf] at hc'
    obtain rfl := hc'.unique hfront
    rw [hsign] at hd'
    obtain rfl := hd'.unique hcd
    have hle := hlong e' he'
    have hlen := hde.length_eq
    have hlen' := hde'.length_eq
    rw [Occurrence.length, Occurrence.length, hsign, List.length_append, List.length_append]
    omega

theorem isSome_version?_iff : (version? text).isSome = true ↔
    ∃ o : Occurrence, o.In text.toList := by
  rw [Option.isSome_iff_ne_none, Ne, version?_eq_none_iff, Classical.not_forall_not]

theorem version?_eq_some_iff {v : String} : version? text = some v ↔
    ∃ o : Occurrence, o.LeftmostLongest text.toList ∧ v = String.ofList o.version := by
  refine ⟨exists_leftmostLongest_of_version?, ?_⟩
  rintro ⟨o, ho, rfl⟩
  obtain ⟨v, hv⟩ := Option.isSome_iff_exists.mp (isSome_version?_iff.mpr ⟨o, ho.occurs⟩)
  obtain ⟨o', ho', rfl⟩ := exists_leftmostLongest_of_version? hv
  rw [hv, ho'.version_eq ho]

/-- A text has a version if one stands in it anywhere, and its version is the first that stands in
it, the longest of those with the same start. -/
theorem version?_leftmost_longest (text : String) :
    ((version? text).isSome = true ↔ ∃ o : Occurrence, o.In text.toList) ∧
      ∀ v, version? text = some v ↔
        ∃ o : Occurrence, o.LeftmostLongest text.toList ∧ v = String.ofList o.version :=
  ⟨isSome_version?_iff, fun _ => version?_eq_some_iff⟩

-- No version starts inside a word, and a third number that runs into a letter is given up.
example : version? "sv1.2 v1.2.3a-b" = some "1.2" := by
  cbv

end DockLint.Health

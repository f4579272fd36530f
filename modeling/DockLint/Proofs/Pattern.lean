import DockLint.Pattern

/-!
# What patterns match

`mem_ends_iff`: the ends that are listed for a pattern are those of its matches. Where the list has
the furthest end first (`FurthestFirst`), the preferred match is the longest one (`head?_ends_iff`);
`furthestFirst_seq` says when a sequence keeps that order, and a repetition does if what follows is
`Stuck` inside it. `exists_of_find?`: the match that is found starts at the first place where one
starts.
-/

namespace DockLint

namespace Cursor

variable {c d e : Cursor} {w w' s : List Char} {b : Option Char} {x : Char}

/-- Reading `w` leads from `c` to `d`. -/
structure Moves (c : Cursor) (w : List Char) (d : Cursor) : Prop where
  rest : c.rest = w ++ d.rest
  before : d.before = w.getLast?.or c.before

theorem moves_nil_iff : c.Moves [] d ↔ d = c := by
  obtain ⟨b, s⟩ := c
  obtain ⟨b', s'⟩ := d
  constructor
  · rintro ⟨hrest, hbefore⟩
    simp only [List.nil_append, List.getLast?_nil, Option.none_or] at hrest hbefore
    rw [hrest, hbefore]
  · rintro ⟨⟩
    exact ⟨rfl, rfl⟩

theorem moves_cons_iff : Moves ⟨b, s⟩ (x :: w) d ↔
    ∃ rest, s = x :: rest ∧ Moves ⟨some x, rest⟩ w d := by
  have hlast : (x :: w).getLast?.or b = w.getLast?.or (some x) := by
    cases w <;> simp [List.getLast?_cons]
  constructor
  · rintro ⟨hrest, hbefore⟩
    exact ⟨w ++ d.rest, hrest, rfl, hbefore.trans hlast⟩
  · rintro ⟨rest, rfl, hrest, hbefore⟩
    exact ⟨congrArg (x :: ·) hrest, hbefore.trans hlast.symm⟩

theorem moves_singleton_iff : Moves ⟨b, s⟩ [x] d ↔ ∃ rest, s = x :: rest ∧ d = ⟨some x, rest⟩ := by
  simp only [moves_cons_iff, moves_nil_iff]

theorem moves_append_iff : c.Moves (w ++ w') e ↔ ∃ d, c.Moves w d ∧ d.Moves w' e := by
  constructor
  · rintro ⟨hrest, hbefore⟩
    rw [List.append_assoc] at hrest
    rw [List.getLast?_append, Option.or_assoc] at hbefore
    exact ⟨⟨w.getLast?.or c.before, w' ++ e.rest⟩, ⟨hrest, rfl⟩, rfl, hbefore⟩
  · rintro ⟨d, h, h'⟩
    refine ⟨?_, ?_⟩
    · rw [h.rest, h'.rest, List.append_assoc]
    · rw [h'.before, h.before, List.getLast?_append, Option.or_assoc]

theorem Moves.length_eq (h : c.Moves w d) : c.rest.length = w.length + d.rest.length := by
  rw [h.rest, List.length_append]

theorem Moves.between_eq (h : c.Moves w d) : c.between d = w := by
  rw [between, h.length_eq, Nat.add_sub_cancel, h.rest, List.take_left]

theorem Moves.unique (h : c.Moves w d) (h' : c.Moves w e) : d = e := by
  have hrest : d.rest = e.rest := List.append_cancel_left (h.rest.symm.trans h'.rest)
  have hbefore : d.before = e.before := h.before.trans h'.before.symm
  cases d
  cases e
  exact Cursor.mk.injEq .. ▸ ⟨hbefore, hrest⟩

/-- Of two ways to move from one cursor, the longer goes through the end of the other. -/
theorem Moves.exists_of_le (h : c.Moves w d) (h' : c.Moves w' e)
    (hle : w.length ≤ w'.length) : ∃ u, w' = w ++ u ∧ d.Moves u e := by
  obtain ⟨u, hu⟩ : w <+: w' :=
    List.prefix_of_prefix_length_le ⟨_, h.rest.symm⟩ ⟨_, h'.rest.symm⟩ hle
  subst hu
  obtain ⟨d', hd', hu⟩ := moves_append_iff.mp h'
  exact ⟨u, rfl, hd'.unique h ▸ hu⟩

/-! ### All cursors of a text -/

theorem mem_all_iff {b : Option Char} {s : List Char} :
    c ∈ all b s ↔ ∃ front, Moves ⟨b, s⟩ front c := by
  induction s generalizing b with
  | nil =>
    constructor
    · intro h
      exact ⟨[], moves_nil_iff.mpr (List.mem_singleton.mp h)⟩
    · rintro ⟨front, h⟩
      obtain ⟨rfl, -⟩ := List.append_eq_nil_iff.mp h.rest.symm
      exact List.mem_singleton.mpr (moves_nil_iff.mp h)
  | cons x s ih =>
    rw [all, List.mem_cons, ih]
    constructor
    · rintro (rfl | ⟨front, h⟩)
      · exact ⟨[], moves_nil_iff.mpr rfl⟩
      · exact ⟨x :: front, moves_cons_iff.mpr ⟨s, rfl, h⟩⟩
    · rintro ⟨_ | ⟨y, front⟩, h⟩
      · exact Or.inl (moves_nil_iff.mp h)
      · obtain ⟨_, ⟨⟩, h⟩ := moves_cons_iff.mp h
        exact Or.inr ⟨front, h⟩

theorem pairwise_all (b : Option Char) (s : List Char) :
    (all b s).Pairwise fun c d => d.rest.length < c.rest.length := by
  induction s generalizing b with
  | nil => exact List.pairwise_singleton _ _
  | cons x s ih =>
    refine List.pairwise_cons.mpr ⟨fun d hd => ?_, ih (some x)⟩
    obtain ⟨front, h⟩ := mem_all_iff.mp hd
    have hlen := h.length_eq
    simp only [List.length_cons] at hlen ⊢
    omega

/-! ### Inside a run -/

/-- The characters on both sides of the cursor are of one class. -/
structure Within (p : Char → Bool) (c : Cursor) : Prop where
  before : ∃ x, c.before = some x ∧ p x = true
  next : ∃ x, c.rest.head? = some x ∧ p x = true

theorem Within.not_atBoundary {p : Char → Bool} (h : Within p c)
    (hword : ∀ x, p x = true → Unicode.isWord x = true) : c.atBoundary = false := by
  obtain ⟨x, hx, hpx⟩ := h.before
  obtain ⟨y, hy, hpy⟩ := h.next
  simp [atBoundary, isWordAt, hx, hy, hword x hpx, hword y hpy]

end Cursor

namespace Pattern

open Cursor

variable {a a' b outer inner : Pattern} {p q : Char → Bool} {c d d' e : Cursor} {s v : List Char}
  {x : Char}

/-- A word that a repetition of the class can read. -/
def IsRun (p : Char → Bool) (w : List Char) : Prop :=
  w ≠ [] ∧ ∀ x ∈ w, p x = true

/-! ### Matches, pattern by pattern -/

theorem matches_empty_iff : empty.Matches c d ↔ d = c := by
  constructor
  · rintro ⟨⟩
    rfl
  · rintro rfl
    exact .empty

theorem matches_one_iff : (one p).Matches c d ↔ ∃ x, p x = true ∧ c.Moves [x] d := by
  constructor
  · rintro ⟨⟩
    next x rest hx => exact ⟨x, hx, moves_singleton_iff.mpr ⟨rest, rfl, rfl⟩⟩
  · rintro ⟨x, hx, h⟩
    obtain ⟨b, s⟩ := c
    obtain ⟨rest, rfl, rfl⟩ := moves_singleton_iff.mp h
    exact .one hx

theorem matches_char_iff : (char x).Matches c d ↔ c.Moves [x] d := by
  simp [char, matches_one_iff]

theorem matches_oneOrMore_iff :
    (oneOrMore p).Matches c d ↔ ∃ w, IsRun p w ∧ c.Moves w d := by
  constructor
  · intro h
    generalize hq : oneOrMore p = q at h
    induction h with
    | last hx =>
      cases hq
      exact ⟨_, ⟨List.cons_ne_nil _ _, List.forall_mem_singleton.mpr hx⟩,
        moves_singleton_iff.mpr ⟨_, rfl, rfl⟩⟩
    | again hx _ ih =>
      cases hq
      obtain ⟨w, hw, hmoves⟩ := ih rfl
      exact ⟨_ :: w, ⟨List.cons_ne_nil _ _, List.forall_mem_cons.mpr ⟨hx, hw.2⟩⟩,
        moves_cons_iff.mpr ⟨_, rfl, hmoves⟩⟩
    | _ => cases hq
  · rintro ⟨w, ⟨hne, hw⟩, h⟩
    induction w generalizing c with
    | nil => exact absurd rfl hne
    | cons x w ih =>
      obtain ⟨b, s⟩ := c
      obtain ⟨rest, rfl, htail⟩ := moves_cons_iff.mp h
      obtain ⟨hx, hw⟩ := List.forall_mem_cons.mp hw
      cases w with
      | nil =>
        obtain rfl := moves_nil_iff.mp htail
        exact .last hx
      | cons y w => exact .again hx (ih htail (List.cons_ne_nil _ _) hw)

theorem matches_boundary_iff : boundary.Matches c d ↔ c.atBoundary = true ∧ d = c := by
  constructor
  · rintro ⟨⟩
    next h => exact ⟨h, rfl⟩
  · rintro ⟨h, rfl⟩
    exact .boundary h

theorem matches_seq_iff : (seq a b).Matches c e ↔ ∃ d, a.Matches c d ∧ b.Matches d e := by
  constructor
  · rintro ⟨⟩
    next d h h' => exact ⟨d, h, h'⟩
  · rintro ⟨d, h, h'⟩
    exact .seq h h'

theorem matches_optional_iff : (optional a).Matches c d ↔ a.Matches c d ∨ d = c := by
  constructor
  · rintro (_ | _)
    · next h => exact Or.inl h
    · exact Or.inr rfl
  · rintro (h | rfl)
    · exact .present h
    · exact .absent

theorem Matches.exists_moves (h : a.Matches c d) : ∃ w, c.Moves w d := by
  induction h with
  | empty => exact ⟨[], moves_nil_iff.mpr rfl⟩
  | one hx => exact (matches_one_iff.mp (.one hx)).elim fun x h => ⟨[x], h.2⟩
  | last hx => exact (matches_oneOrMore_iff.mp (.last hx)).elim fun w h => ⟨w, h.2⟩
  | again hx h _ => exact (matches_oneOrMore_iff.mp (.again hx h)).elim fun w h => ⟨w, h.2⟩
  | boundary => exact ⟨[], moves_nil_iff.mpr rfl⟩
  | seq _ _ ih ih' =>
    obtain ⟨w, hw⟩ := ih
    obtain ⟨w', hw'⟩ := ih'
    exact ⟨w ++ w', moves_append_iff.mpr ⟨_, hw, hw'⟩⟩
  | present _ ih => exact ih
  | absent => exact ⟨[], moves_nil_iff.mpr rfl⟩

theorem Matches.length_le (h : a.Matches c d) : d.rest.length ≤ c.rest.length := by
  obtain ⟨w, hw⟩ := h.exists_moves
  have := hw.length_eq
  omega

theorem length_lt_of_matches_one_seq (h : (seq (seq (one p) a) b).Matches c e) :
    e.rest.length < c.rest.length := by
  obtain ⟨d, hcd, hde⟩ := matches_seq_iff.mp h
  obtain ⟨d', hcd', hd'd⟩ := matches_seq_iff.mp hcd
  obtain ⟨x, -, hmoves⟩ := matches_one_iff.mp hcd'
  have hlen := hmoves.length_eq
  have hle := hd'd.length_le
  have hle' := hde.length_le
  simp only [List.length_singleton] at hlen
  omega

/-! ### The list of ends -/

theorem mem_runEnds_iff : d ∈ runEnds p c.rest ↔ (oneOrMore p).Matches c d := by
  obtain ⟨before, s⟩ := c
  induction s generalizing before with
  | nil =>
    refine ⟨fun h => absurd h List.not_mem_nil, fun h => ?_⟩
    cases h
  | cons x rest ih =>
    rw [runEnds]
    split
    · next hx =>
      rw [List.mem_append, List.mem_singleton, ih (some x)]
      constructor
      · rintro (h | rfl)
        · exact .again hx h
        · exact .last hx
      · rintro (_ | _)
        · exact Or.inr rfl
        · next h => exact Or.inl h
    · next hx =>
      refine ⟨fun h => absurd h List.not_mem_nil, fun h => ?_⟩
      cases h <;> contradiction

theorem mem_ends_iff : d ∈ a.ends c ↔ a.Matches c d := by
  induction a generalizing c d with
  | empty => rw [ends, List.mem_singleton, matches_empty_iff]
  | one p =>
    obtain ⟨b, _ | ⟨x, rest⟩⟩ := c
    · simp [ends, matches_one_iff, moves_singleton_iff]
    · simp only [ends, matches_one_iff]
      split
      · next hx =>
        rw [List.mem_singleton]
        constructor
        · intro h
          exact ⟨x, hx, moves_singleton_iff.mpr ⟨rest, rfl, h⟩⟩
        · rintro ⟨_, -, h⟩
          obtain ⟨_, ⟨⟩, h⟩ := moves_singleton_iff.mp h
          exact h
      · next hx =>
        refine ⟨fun h => absurd h List.not_mem_nil, fun ⟨_, hy, h⟩ => ?_⟩
        obtain ⟨_, ⟨⟩, -⟩ := moves_singleton_iff.mp h
        exact absurd hy hx
  | oneOrMore p => exact mem_runEnds_iff
  | boundary =>
    rw [ends, matches_boundary_iff]
    split <;> simp_all
  | seq a b iha ihb => simp only [ends, List.mem_flatMap, matches_seq_iff, iha, ihb]
  | optional a ih => rw [ends, List.mem_append, List.mem_singleton, ih, matches_optional_iff]

/-- Each cursor of the list is further on in the text than those after it. -/
def FurthestFirst (ds : List Cursor) : Prop :=
  ds.Pairwise fun d e => d.rest.length < e.rest.length

/-- A list that is in this order begins with the end of the longest match. -/
theorem head?_ends_iff (h : FurthestFirst (a.ends c)) : (a.ends c).head? = some d ↔
    a.Matches c d ∧ ∀ e, a.Matches c e → d.rest.length ≤ e.rest.length := by
  simp only [← mem_ends_iff]
  cases hends : a.ends c with
  | nil => simp
  | cons x ds =>
    rw [hends] at h
    have hfirst := (List.pairwise_cons.mp h).1
    rw [List.head?_cons, Option.some_inj]
    constructor
    · rintro rfl
      refine ⟨List.mem_cons_self, fun e he => ?_⟩
      rcases List.mem_cons.mp he with rfl | he
      · exact Nat.le_refl _
      · exact Nat.le_of_lt (hfirst e he)
    · rintro ⟨hd, hmin⟩
      rcases List.mem_cons.mp hd with rfl | hd
      · rfl
      · exact absurd (hmin x List.mem_cons_self) (Nat.not_le.mpr (hfirst d hd))

theorem furthestFirst_runEnds (p : Char → Bool) (s : List Char) : FurthestFirst (runEnds p s) := by
  induction s with
  | nil => exact List.Pairwise.nil
  | cons x rest ih =>
    rw [runEnds]
    split
    · refine List.pairwise_append.mpr ⟨ih, List.pairwise_singleton _ _, fun d hd e he => ?_⟩
      obtain rfl := List.mem_singleton.mp he
      obtain ⟨w, ⟨hne, -⟩, hw⟩ :=
        matches_oneOrMore_iff.mp (mem_runEnds_iff (c := ⟨some x, rest⟩).mp hd)
      have hlen := hw.length_eq
      have hpos := List.length_pos_iff.mpr hne
      simp only at hlen ⊢
      omega
    · exact List.Pairwise.nil

/-- The order is kept when a longer match of the first part never ends up behind a shorter one. -/
theorem furthestFirst_seq (ha : FurthestFirst (a.ends c))
    (hb : ∀ d, a.Matches c d → FurthestFirst (b.ends d))
    (h : ∀ d d', a.Matches c d → a.Matches c d' → d.rest.length < d'.rest.length →
      ∀ e e', b.Matches d e → b.Matches d' e' → e.rest.length < e'.rest.length) :
    FurthestFirst ((seq a b).ends c) := by
  refine List.pairwise_flatMap.mpr ⟨fun d hd => hb d (mem_ends_iff.mp hd), ?_⟩
  refine List.Pairwise.imp_of_mem (fun hd hd' hlt e he e' he' => ?_) ha
  exact h _ _ (mem_ends_iff.mp hd) (mem_ends_iff.mp hd') hlt e e' (mem_ends_iff.mp he)
    (mem_ends_iff.mp he')

theorem furthestFirst_seq_of_stays (ha : FurthestFirst (a.ends c))
    (hstays : ∀ d e, b.Matches d e → e = d) (hb : ∀ d, FurthestFirst (b.ends d)) :
    FurthestFirst ((seq a b).ends c) := by
  refine furthestFirst_seq ha (fun d _ => hb d) fun d d' _ _ hlt e e' he he' => ?_
  obtain rfl := hstays d e he
  obtain rfl := hstays d' e' he'
  exact hlt

theorem furthestFirst_one_seq (hb : ∀ d, (one p).Matches c d → FurthestFirst (b.ends d)) :
    FurthestFirst ((seq (one p) b).ends c) := by
  obtain ⟨before, _ | ⟨x, rest⟩⟩ := c
  · exact List.Pairwise.nil
  · by_cases hx : p x = true
    · have hends : (one p).ends ⟨before, x :: rest⟩ = [⟨some x, rest⟩] := if_pos hx
      rw [ends, hends, List.flatMap_singleton]
      exact hb _ (.one hx)
    · have hends : (one p).ends ⟨before, x :: rest⟩ = [] := if_neg hx
      rw [ends, hends]
      exact List.Pairwise.nil

/-- With an optional part in front, the matches with that part come before those without it. -/
theorem furthestFirst_optional_seq (hab : FurthestFirst ((seq a b).ends c))
    (hb : FurthestFirst (b.ends c))
    (h : ∀ e e', (seq a b).Matches c e → b.Matches c e' → e.rest.length < e'.rest.length) :
    FurthestFirst ((seq (optional a) b).ends c) := by
  have hends : (seq (optional a) b).ends c = (seq a b).ends c ++ b.ends c := by
    simp only [ends, List.flatMap_append, List.flatMap_singleton]
  rw [hends]
  exact List.pairwise_append.mpr ⟨hab, hb, fun e he e' he' =>
    h e e' (mem_ends_iff.mp he) (mem_ends_iff.mp he')⟩

theorem ends_seq_assoc : (seq (seq a b) a').ends c = (seq a (seq b a')).ends c := by
  simp only [ends, List.flatMap_assoc]

/-! ### What follows a run -/

/-- No match of the pattern starts between two characters of the class. -/
def Stuck (p : Char → Bool) (a : Pattern) : Prop :=
  ∀ c, Within p c → ∀ d, ¬ a.Matches c d

theorem stuck_one (h : ∀ x, p x = true → q x = false) : Stuck p (one q) := by
  intro c hc d hd
  obtain ⟨x, hx, hmoves⟩ := matches_one_iff.mp hd
  obtain ⟨y, hy, hpy⟩ := hc.next
  rw [hmoves.rest] at hy
  obtain rfl : x = y := Option.some_inj.mp hy
  rw [h x hpy] at hx
  contradiction

theorem stuck_char (h : p x = false) : Stuck p (char x) := by
  refine stuck_one fun y hy => decide_eq_false ?_
  rintro rfl
  exact Bool.false_ne_true (h.symm.trans hy)

theorem stuck_boundary (h : ∀ x, p x = true → Unicode.isWord x = true) : Stuck p boundary := by
  intro c hc d hd
  have := (matches_boundary_iff.mp hd).1
  rw [hc.not_atBoundary h] at this
  contradiction

theorem Stuck.seq (h : Stuck p a) : Stuck p (seq a b) := by
  intro c hc e he
  obtain ⟨d, hd, -⟩ := matches_seq_iff.mp he
  exact h c hc d hd

theorem Stuck.optional_seq (h : Stuck p a) (h' : Stuck p b) : Stuck p (.seq (optional a) b) := by
  intro c hc e he
  obtain ⟨d, hd, hde⟩ := matches_seq_iff.mp he
  rcases matches_optional_iff.mp hd with hd | rfl
  · exact h c hc d hd
  · exact h' d hc e hde

theorem within_of_runs (hd : (oneOrMore p).Matches c d) (hd' : (oneOrMore p).Matches c d')
    (hlt : d.rest.length < d'.rest.length) : Within p d' := by
  obtain ⟨w, ⟨-, hw⟩, hmoves⟩ := matches_oneOrMore_iff.mp hd
  obtain ⟨w', ⟨hne, hw'⟩, hmoves'⟩ := matches_oneOrMore_iff.mp hd'
  have hlen := hmoves.length_eq
  have hlen' := hmoves'.length_eq
  obtain ⟨u, rfl, hu⟩ := hmoves'.exists_of_le hmoves (by omega)
  have hune : u ≠ [] := by
    rintro rfl
    simp only [List.append_nil] at hlen
    omega
  obtain ⟨x, u, rfl⟩ := List.exists_cons_of_ne_nil hune
  refine ⟨⟨w'.getLast hne, ?_, hw' _ (List.getLast_mem hne)⟩, x, ?_, hw x (by simp)⟩
  · rw [hmoves'.before, List.getLast?_eq_some_getLast hne, Option.some_or]
  · rw [hu.rest, List.cons_append, List.head?_cons]

theorem furthestFirst_run_seq (hstuck : Stuck p b)
    (hb : ∀ d, (oneOrMore p).Matches c d → FurthestFirst (b.ends d)) :
    FurthestFirst ((seq (oneOrMore p) b).ends c) :=
  furthestFirst_seq (furthestFirst_runEnds p c.rest) hb fun _ d' hd hd' hlt _ e' _ he' =>
    absurd he' (hstuck d' (within_of_runs hd hd' hlt) e')

/-! ### The first match in a text -/

theorem find?_eq_none_iff : find? outer inner s = none ↔
    ∀ c ∈ Cursor.all none s, ∀ d e, outer.Matches c d → ¬ inner.Matches d e := by
  simp only [find?, List.findSome?_eq_none_iff, Option.map_eq_none_iff, List.head?_eq_none_iff,
    List.eq_nil_iff_forall_not_mem, mem_ends_iff]
  exact ⟨fun h c hc d e hd => h c hc d hd e, fun h c hc d hd e => h c hc d e hd⟩

theorem exists_of_find? (h : find? outer inner s = some v) : ∃ c d e, c ∈ Cursor.all none s ∧
    outer.Matches c d ∧ (inner.ends d).head? = some e ∧ v = d.between e ∧
    ∀ c' ∈ Cursor.all none s, ∀ d' e', outer.Matches c' d' → inner.Matches d' e' →
      c'.rest.length ≤ c.rest.length := by
  obtain ⟨l₁, c, l₂, hall, hc, hbefore⟩ := List.findSome?_eq_some_iff.mp h
  obtain ⟨_, d, _, hends, hd, -⟩ := List.findSome?_eq_some_iff.mp hc
  obtain ⟨e, he, rfl⟩ := Option.map_eq_some_iff.mp hd
  have hcd : outer.Matches c d := mem_ends_iff.mp (hends ▸ by simp)
  refine ⟨c, d, e, hall ▸ by simp, hcd, he, rfl, fun c' hc' d' e' hd' he' => ?_⟩
  have horder := pairwise_all none s
  rw [hall] at hc' horder
  rcases List.mem_append.mp hc' with hc' | hc'
  · -- A match from an earlier cursor would have been found.
    have hnone := hbefore c' hc'
    simp only [List.findSome?_eq_none_iff, Option.map_eq_none_iff, List.head?_eq_none_iff] at hnone
    have := hnone d' (mem_ends_iff.mpr hd')
    exact absurd (mem_ends_iff.mpr he') (this ▸ List.not_mem_nil)
  · rcases List.mem_cons.mp hc' with rfl | hc'
    · exact Nat.le_refl _
    · have hsuffix := (List.pairwise_append.mp horder).2.1
      exact Nat.le_of_lt ((List.pairwise_cons.mp hsuffix).1 c' hc')

end Pattern

end DockLint

import Mathlib.Algebra.Group.Nat.Defs
import DockLint.Proofs.Json.Tree

/-!
# Values and their spellings

`Spells s v`: the text of `s` is a text of the value `v`, whatever blanks and escapes it has and in
whatever order its members stand. `matches_of_spells`: then `s` stands for `v` with the members of
each object in the order of their keys.
-/

namespace DockLint.Json

/-! ### Values -/

mutual

/-- A value as the reader yields it, the members of each object in the order of their keys. -/
def canonical : Json → Json
  | arr vs => arr (canonicals vs)
  | obj ms => ofMembers (canonicalMembers ms)
  | v => v

def canonicals : List Json → List Json
  | [] => []
  | v :: vs => canonical v :: canonicals vs

def canonicalMembers : List (String × Json) → List (String × Json)
  | [] => []
  | (key, v) :: ms => (key, canonical v) :: canonicalMembers ms

end

mutual

/-- How many arrays and objects are around each other. -/
def depth : Json → Nat
  | arr vs => depths vs + 1
  | obj ms => memberDepths ms + 1
  | _ => 0

def depths : List Json → Nat
  | [] => 0
  | v :: vs => max (depth v) (depths vs)

def memberDepths : List (String × Json) → Nat
  | [] => 0
  | (_, v) :: ms => max (depth v) (memberDepths ms)

end

theorem lookup_cons_eq (m : String × Json) (ms : List (String × Json)) (key : String) :
    (m :: ms).lookup key = if key = m.1 then some m.2 else ms.lookup key := by
  rw [List.lookup_cons]
  by_cases h : key = m.1
  · rw [if_pos h, h, beq_self_eq_true]
  · rw [if_neg h, beq_false_of_ne h]

theorem lookup_canonicalMembers (ms : List (String × Json)) (key : String) :
    (canonicalMembers ms).lookup key = (ms.lookup key).map canonical := by
  induction ms with
  | nil => rfl
  | cons m ms ih =>
    rw [canonicalMembers, lookup_cons_eq, lookup_cons_eq, ih]
    split <;> rfl

theorem map_fst_canonicalMembers (ms : List (String × Json)) :
    (canonicalMembers ms).map Prod.fst = ms.map Prod.fst := by
  induction ms with
  | nil => rfl
  | cons m ms ih => rw [canonicalMembers, List.map_cons, List.map_cons, ih]

theorem canonical_eq_num_iff {v : Json} {n : Number} : v.canonical = .num n ↔ v = .num n := by
  cases v <;> simp [canonical, ofMembers]

theorem canonical_eq_str_iff {v : Json} {s : String} : v.canonical = .str s ↔ v = .str s := by
  cases v <;> simp [canonical, ofMembers]

theorem lookup_insertMember (key : String) (v : Json) (ms : List (String × Json)) (k : String) :
    (insertMember key v ms).lookup k = if k = key then some v else ms.lookup k := by
  induction ms with
  | nil => rw [insertMember, lookup_cons_eq]
  | cons m ms ih =>
    rw [insertMember]
    by_cases h : key = m.1
    · rw [if_pos h, lookup_cons_eq, lookup_cons_eq, ← h]
      by_cases hk : k = key <;> simp [hk]
    · by_cases hlt : key < m.1
      · rw [if_neg h, if_pos hlt, lookup_cons_eq]
      · rw [if_neg h, if_neg hlt, lookup_cons_eq, lookup_cons_eq, ih]
        by_cases hk : k = key
        · rw [if_pos hk, if_pos hk, if_neg (hk ▸ h)]
        · rw [if_neg hk, if_neg hk]

theorem lookup_eq_some_iff_mem {ms : List (String × Json)} {key : String} {v : Json}
    (h : (ms.map Prod.fst).Nodup) : ms.lookup key = some v ↔ (key, v) ∈ ms := by
  rw [List.lookup_eq_some_iff]
  constructor
  · rintro ⟨front, back, rfl, -⟩
    exact List.mem_append_right _ List.mem_cons_self
  · intro hmem
    obtain ⟨front, back, rfl⟩ := List.append_of_mem hmem
    rw [List.map_append, List.map_cons, List.nodup_append] at h
    refine ⟨front, back, rfl, fun p hp => bne_iff_ne.2 fun he => ?_⟩
    exact h.2.2 p.1 (List.mem_map_of_mem hp) key List.mem_cons_self he.symm

/-- Without a second member under one key the order of members does not count. -/
theorem lookup_perm {ms ms' : List (String × Json)} (h : (ms.map Prod.fst).Nodup)
    (hperm : ms.Perm ms') (key : String) : ms'.lookup key = ms.lookup key := by
  have h' : (ms'.map Prod.fst).Nodup := (hperm.map Prod.fst).nodup_iff.1 h
  refine Option.ext fun v => ?_
  rw [lookup_eq_some_iff_mem h, lookup_eq_some_iff_mem h', hperm.mem_iff]

theorem lookup_foldl_insertMember (ms acc : List (String × Json)) (key : String) :
    (ms.foldl (fun acc m => insertMember m.1 m.2 acc) acc).lookup key =
      (ms.reverse.lookup key).or (acc.lookup key) := by
  induction ms generalizing acc with
  | nil => rfl
  | cons m ms ih =>
    rw [List.foldl_cons, ih, lookup_insertMember, List.reverse_cons, List.lookup_append,
      Option.or_assoc, lookup_cons_eq]
    by_cases hk : key = m.1
    · rw [if_pos hk, if_pos hk]
      rfl
    · rw [if_neg hk, if_neg hk]
      rfl

/-- Of the members under one key the last one counts. -/
theorem lookup_normalize_eq (ms : List (String × Json)) (key : String) :
    (normalize ms).lookup key = ms.reverse.lookup key := by
  rw [normalize, lookup_foldl_insertMember]
  exact Option.or_none

/-- No member is lost when members are brought into order. -/
theorem lookup_normalize {ms : List (String × Json)} (h : (ms.map Prod.fst).Nodup)
    (key : String) : (normalize ms).lookup key = ms.lookup key := by
  rw [lookup_normalize_eq, lookup_perm h (List.reverse_perm ms).symm]

/-! ### Plain numbers -/

/-- The literal of a whole number without fraction and exponent, if it fits a word. -/
def IsPlain (l : Literal) : Number → Prop
  | .natural n => n < 2 ^ 64 ∧ l = ⟨false, Nat.toDigits 10 n, none, none⟩
  | .negative n => (0 < n ∧ n ≤ 2 ^ 63) ∧ l = ⟨true, Nat.toDigits 10 n, none, none⟩
  | .double _ => False

namespace Literal

theorem le_ofDigitChars (ds : List Char) (n : Nat) : n ≤ Nat.ofDigitChars 10 ds n := by
  rw [Nat.ofDigitChars_eq_ofDigitChars_zero]
  have hpos : 0 < 10 ^ ds.length := Nat.pow_pos (by decide)
  exact Nat.le_trans (Nat.le_mul_of_pos_left n hpos) (Nat.le_add_right _ _)

/-- All digits of a word are significant. -/
theorem significand_eq (ds : List Char) (start : Nat)
    (h : Nat.ofDigitChars 10 ds start ≤ maxWord) :
    significand start ds = (Nat.ofDigitChars 10 ds start, 0) := by
  induction ds generalizing start with
  | nil => rw [significand, Nat.ofDigitChars_nil]
  | cons d ds ih =>
    have hnext : 10 * start + (d.toNat - '0'.toNat) = start * 10 + digitValue d := by
      rw [Nat.mul_comm]
      rfl
    rw [Nat.ofDigitChars_cons, hnext] at h ⊢
    rw [significand, if_pos (Nat.le_trans (le_ofDigitChars ds _) h), ih _ h]

theorem significand_toDigits {n : Nat} (h : n < 2 ^ 64) :
    significand 0 (Nat.toDigits 10 n) = (n, 0) := by
  have hn : Nat.ofDigitChars 10 (Nat.toDigits 10 n) 0 = n := Nat.ofDigitChars_ten_toDigits
  rw [significand_eq, hn]
  rw [hn, maxWord]
  exact Nat.le_sub_one_of_lt h

end Literal

theorem value?_of_isPlain {l : Literal} {n : Number} (h : IsPlain l n) : l.value? = some n := by
  cases n with
  | natural n =>
    obtain ⟨hn, rfl⟩ := h
    simp [Literal.value?, Literal.word?, Literal.significand_toDigits hn]
  | negative n =>
    obtain ⟨⟨h0, hn⟩, rfl⟩ := h
    have hs := Literal.significand_toDigits (n := n) (by omega)
    have hhalf : n ≤ UInt64.size / 2 := hn
    simp [Literal.value?, Literal.word?, hs, h0, hhalf]
  | double d => exact h.elim

/-! ### Spellings -/

namespace Spelling

mutual

/-- The spelling is one of the value. An object may list its members in any order, but none
twice. -/
def Spells : Spelling → Json → Prop
  | null, .null => True
  | bool a, .bool b => a = b
  | num n, .num m => IsPlain n.literal m
  | str ps, .str s => Piece.decode ps = some s.toList
  | arr _ es, .arr vs => SpellsAll es vs
  | obj _ ms, .obj vs => SpellsMembers ms vs ∧ (vs.map Prod.fst).Nodup
  | padded _ s _, v => Spells s v
  | _, _ => False

def SpellsAll : List Spelling → List Json → Prop
  | [], [] => True
  | e :: es, v :: vs => Spells e v ∧ SpellsAll es vs
  | _, _ => False

def SpellsMembers : List (Key × Spelling) → List (String × Json) → Prop
  | [], [] => True
  | (k, e) :: ms, (key, v) :: vs =>
    Piece.decode k.pieces = some key.toList ∧ Spells e v ∧ SpellsMembers ms vs
  | _, _ => False

end

variable {s : Spelling} {v : Json} {es : List Spelling} {vs : List Json}
  {ms : List (Key × Spelling)} {members : List (String × Json)}

/-- What a spelling has in common with its value. -/
structure Matches (s : Spelling) (v : Json) : Prop where
  value : s.value? = some v.canonical
  depth : s.depth = v.depth

theorem matches_elements (ih : ∀ e ∈ es, ∀ v, e.Spells v → e.Matches v) (h : SpellsAll es vs) :
    values? es = some (canonicals vs) ∧ depths es = Json.depths vs := by
  induction es generalizing vs with
  | nil =>
    cases vs with
    | nil => exact ⟨rfl, rfl⟩
    | cons v vs => exact h.elim
  | cons e es ihes =>
    cases vs with
    | nil => exact h.elim
    | cons v vs =>
      obtain ⟨hv, hd⟩ := ih e List.mem_cons_self v h.1
      obtain ⟨hvs, hds⟩ := ihes (fun e he => ih e (List.mem_cons_of_mem _ he)) h.2
      refine ⟨?_, ?_⟩
      · rw [values?, hv, hvs]
        rfl
      · rw [depths, Json.depths, hd, hds]

theorem matches_members (ih : ∀ m ∈ ms, ∀ v, m.2.Spells v → m.2.Matches v)
    (h : SpellsMembers ms members) :
    members? ms = some (canonicalMembers members) ∧
      memberDepths ms = Json.memberDepths members := by
  induction ms generalizing members with
  | nil =>
    cases members with
    | nil => exact ⟨rfl, rfl⟩
    | cons m members => exact h.elim
  | cons m ms ihms =>
    cases members with
    | nil => exact h.elim
    | cons m' members =>
      obtain ⟨hkey, hspells, hrest⟩ := h
      obtain ⟨hv, hd⟩ := ih m List.mem_cons_self m'.2 hspells
      obtain ⟨hvs, hds⟩ := ihms (fun m hm => ih m (List.mem_cons_of_mem _ hm)) hrest
      refine ⟨?_, ?_⟩
      · rw [members?, hkey, hv, hvs]
        show some ((String.ofList m'.1.toList, m'.2.canonical) :: _) = _
        rw [String.ofList_toList, canonicalMembers]
      · rw [memberDepths, Json.memberDepths, hd, hds]

/-- A spelling of a value stands for it and nests as deep. -/
theorem matches_of_spells (h : s.Spells v) : s.Matches v := by
  induction s using Spelling.induction generalizing v with
  | null =>
    cases v with
    | null => exact ⟨rfl, rfl⟩
    | _ => exact h.elim
  | bool b =>
    cases v with
    | bool b' =>
      obtain rfl : b = b' := h
      exact ⟨rfl, rfl⟩
    | _ => exact h.elim
  | num n =>
    cases v with
    | num m =>
      refine ⟨?_, rfl⟩
      rw [value?, value?_of_isPlain h]
      rfl
    | _ => exact h.elim
  | str ps =>
    cases v with
    | str cs =>
      have hcs : Piece.decode ps = some cs.toList := h
      refine ⟨?_, rfl⟩
      rw [value?, hcs, Option.map_some, String.ofList_toList]
      rfl
    | _ => exact h.elim
  | arr inner es ih =>
    cases v with
    | arr vs =>
      obtain ⟨hvs, hds⟩ := matches_elements (fun e he v => ih e he) h
      refine ⟨?_, ?_⟩
      · rw [value?, hvs]
        rfl
      · rw [depth, Json.depth, hds]
    | _ => exact h.elim
  | obj inner ms ih =>
    cases v with
    | obj members =>
      obtain ⟨hvs, hds⟩ := matches_members (fun m hm v => ih m hm) h.1
      refine ⟨?_, ?_⟩
      · rw [value?, hvs]
        rfl
      · rw [depth, Json.depth, hds]
    | _ => exact h.elim
  | padded before s after ih => exact ⟨(ih h).value, (ih h).depth⟩

/-- What is spelled has no member twice. -/
theorem nodup_of_spells (h : s.Spells (.obj members)) : (members.map Prod.fst).Nodup := by
  induction s using Spelling.induction with
  | obj inner ms ih => exact h.2
  | padded before s after ih => exact ih h
  | null | bool _ | num _ | str _ | arr _ _ _ => exact h.elim

end Spelling

end DockLint.Json

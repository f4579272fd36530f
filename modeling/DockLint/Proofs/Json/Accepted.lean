import DockLint.Proofs.Json.Nested
import Mathlib.Data.List.Basic

/-!
# What is read is JSON

The readers against the grammar, from their side: whatever a reader takes off the front of a text
is the text of a spelling. `takes_value` says so of values at any depth. Which value it is need not
be said again, since `value_text` reads it off the spelling.
-/

namespace DockLint.Json

open Outcome

variable {s t w rest acc cs : List Char} {c : Char}

/-! ### Strings -/

/-- What has been read of a piece of a string that is not complete. -/
def Place.Unfinished : Place → List Char → Prop
  | .plain, w | .pair _, w => w = []
  | .escape, w | .pairUnit _, w => w = ['\\']
  | .unit _ owed _ _, w => ∃ ds : List HexDigit,
    w = '\\' :: 'u' :: ds.map HexDigit.char ∧ 1 ≤ owed ∧ ds.length + owed = 4

/-- With `c` behind `w`, pieces are complete up to what is unfinished at the next place. -/
def Step.Completes (w : List Char) (c : Char) : Step → Prop
  | .go place =>
    ∃ (ps : List Piece) (w' : _), w ++ [c] = ps.flatMap Piece.text ++ w' ∧ place.Unfinished w'
  | .emit _ => ∃ ps : List Piece, w ++ [c] = ps.flatMap Piece.text
  | .close => w = [] ∧ c = '\x22'
  | .refuse _ => True

theorem exists_hexDigit {d : Nat} (h : hexValue? c = some d) : ∃ x : HexDigit, x.char = c := by
  have hdigit : ∀ k : Fin 10, (HexDigit.mk (k.castLE (by decide)) false).char =
      Char.ofNat (k + 0x30) := by decide
  have hsmall : ∀ k : Fin 6, (HexDigit.mk (k.natAdd 10) false).char = Char.ofNat (k + 0x61) := by
    decide
  have hlarge : ∀ k : Fin 6, (HexDigit.mk (k.natAdd 10) true).char = Char.ofNat (k + 0x41) := by
    decide
  -- A character is known by its distance from the first of its range.
  have hchar (lo n : Nat) (h1 : lo ≤ c.toNat) (h2 : c.toNat < lo + n) :
      ∃ k : Fin n, Char.ofNat (k + lo) = c :=
    ⟨⟨c.toNat - lo, by omega⟩, by rw [Nat.sub_add_cancel h1, Char.ofNat_toNat]⟩
  unfold hexValue? at h
  split at h
  · rename_i hc
    obtain ⟨h1, h2⟩ := Char.isDigit_iff_toNat.1 hc
    obtain ⟨k, hk⟩ := hchar 0x30 10 h1 (Nat.lt_succ_of_le h2)
    exact ⟨_, (hdigit k).trans hk⟩
  · split at h
    · rename_i hc
      obtain ⟨k, hk⟩ := hchar 0x61 6 hc.1 (Nat.lt_succ_of_le hc.2)
      exact ⟨_, (hsmall k).trans hk⟩
    · split at h
      · rename_i hc
        obtain ⟨k, hk⟩ := hchar 0x41 6 hc.1 (Nat.lt_succ_of_le hc.2)
        exact ⟨_, (hlarge k).trans hk⟩
      · cases h

theorem exists_shorthand {d : Char} (h : unescape? c = some d) : ∃ e : Shorthand, e.letter = c := by
  unfold unescape? at h
  split at h
  · exact ⟨.quote, rfl⟩
  · exact ⟨.backslash, rfl⟩
  · exact ⟨.slash, rfl⟩
  · exact ⟨.backspace, rfl⟩
  · exact ⟨.formFeed, rfl⟩
  · exact ⟨.lineFeed, rfl⟩
  · exact ⟨.carriageReturn, rfl⟩
  · exact ⟨.tab, rfl⟩
  · cases h

/-- A code unit that is complete is a piece. -/
theorem unitStep_completes (ps : List Piece) (h : w ++ [c] = ps.flatMap Piece.text) (n : Nat)
    (rest : List Char) (high : Option Nat) : (unitStep n rest high).Completes w c := by
  cases high with
  | none =>
    rw [unitStep]
    split
    · exact ⟨ps, [], by rw [h, List.append_nil], rfl⟩
    · split
      · exact True.intro
      · exact ⟨ps, h⟩
  | some high =>
    rw [unitStep]
    split
    · exact ⟨ps, h⟩
    · exact True.intro

/-- One case for each place. -/
theorem stringStep_completes {place : Place} (hw : place.Unfinished w) (c : Char)
    (rest : List Char) : (stringStep c rest place).Completes w c := by
  cases place with
  | plain =>
    obtain rfl : w = [] := hw
    rw [stringStep]
    split
    · exact ⟨rfl, ‹_›⟩
    · split
      · rename_i hc
        exact ⟨[], _, rfl, by rw [hc]; rfl⟩
      · split
        · exact True.intro
        · rename_i h1 h2 h3
          exact ⟨[.plain c ⟨h1, h2, Nat.not_lt.1 h3⟩], rfl⟩
  | escape =>
    obtain rfl : w = ['\\'] := hw
    rw [stringStep]
    split
    · rename_i hc
      exact ⟨[], _, rfl, [], by rw [hc]; rfl, by decide, rfl⟩
    · split
      · rename_i d hd
        obtain ⟨e, rfl⟩ := exists_shorthand hd
        exact ⟨[.short e], rfl⟩
      · exact True.intro
  | unit digits owed bits high =>
    obtain ⟨ds, rfl, h1, hlen⟩ := hw
    rw [stringStep]
    split
    · exact True.intro
    · rename_i d hd
      obtain ⟨x, rfl⟩ := exists_hexDigit hd
      split
      · -- The last of the four digits.
        obtain ⟨p, q, r, rfl⟩ := List.length_eq_three.1 (show ds.length = 3 by omega)
        exact unitStep_completes [.unit ⟨p, q, r, x⟩] rfl _ _ _
      · refine ⟨[], _, rfl, ds ++ [x], ?_, by omega, ?_⟩
        · simp
        · rw [List.length_append, List.length_singleton]
          omega
  | pair high =>
    obtain rfl : w = [] := hw
    rw [stringStep]
    split
    · rename_i hc
      exact ⟨[], _, rfl, by rw [hc]; rfl⟩
    · exact True.intro
  | pairUnit high =>
    obtain rfl : w = ['\\'] := hw
    rw [stringStep]
    split
    · rename_i hc
      exact ⟨[], _, rfl, [], by rw [hc]; rfl, by decide, rfl⟩
    · exact True.intro

/-- The induction is on what is left; `w` stands in front of it. -/
theorem exists_pieces_of_stringFrom {place : Place} (hw : place.Unfinished w)
    (h : stringFrom place acc s = .ok (cs, rest)) :
    ∃ ps : List Piece, w ++ s = ps.flatMap Piece.text ++ '\x22' :: rest := by
  induction s generalizing place acc w with
  | nil => cases h
  | cons c s ih =>
    have hstep := stringStep_completes hw c s
    have hs : w ++ c :: s = (w ++ [c]) ++ s := by simp
    rw [stringFrom_cons] at h
    rw [hs]
    cases hc : stringStep c s place with
    | go next =>
      rw [hc] at h hstep
      obtain ⟨ps, w', hps, hw'⟩ := hstep
      obtain ⟨qs, hqs⟩ := ih hw' h
      exact ⟨ps ++ qs, by rw [hps, List.append_assoc, hqs, List.flatMap_append, List.append_assoc]⟩
    | emit d =>
      rw [hc] at h hstep
      obtain ⟨ps, hps⟩ := hstep
      have hplain : Place.plain.Unfinished [] := rfl
      obtain ⟨qs, hqs⟩ := ih hplain h
      rw [List.nil_append] at hqs
      exact ⟨ps ++ qs, by rw [hps, hqs, List.flatMap_append, List.append_assoc]⟩
    | close =>
      rw [hc] at h hstep
      obtain ⟨rfl, rfl⟩ := hstep
      cases h
      exact ⟨[], rfl⟩
    | refuse stop =>
      rw [hc] at h
      cases h

theorem exists_pieces (h : string s = .ok (cs, rest)) :
    ∃ ps : List Piece, s = ps.flatMap Piece.text ++ '\x22' :: rest := by
  have hplain : Place.plain.Unfinished [] := rfl
  exact exists_pieces_of_stringFrom hplain h

/-! ### Numbers -/

namespace Literal

variable {ds : List Char} {o : Option (List Char)} {x : Option (Bool × List Char)} {l : Literal}
  {negative : Bool}

theorem digits_eq_ok (h : digits s = .ok (ds, rest)) : IsDigits ds ∧ s = ds ++ rest := by
  cases s with
  | nil => cases h
  | cons c s =>
    rw [digits] at h
    split at h
    · rename_i hc
      cases h
      refine ⟨⟨?_, fun d hd => ?_⟩, List.takeWhile_append_dropWhile.symm⟩
      · rw [List.takeWhile_cons_of_pos hc]
        exact List.cons_ne_nil _ _
      · exact List.all_eq_true.1 List.all_takeWhile d hd
    · cases h

theorem readWhole_eq_ok (h : readWhole s = .ok (ds, rest)) : IsWhole ds ∧ s = ds ++ rest := by
  unfold readWhole at h
  split at h
  · split at h
    · split at h
      · cases h
      · cases h
        exact ⟨by decide, rfl⟩
    · cases h
      exact ⟨by decide, rfl⟩
  · rename_i hs
    obtain ⟨hds, he⟩ := digits_eq_ok h
    refine ⟨⟨hds, fun hz => ?_⟩, he⟩
    -- The text does not begin with a zero, and its first digit is that of `ds`.
    obtain ⟨d, ds, rfl⟩ := List.exists_cons_of_ne_nil hds.1
    obtain rfl : d = '0' := Option.some.inj hz
    exact absurd he (hs _)

theorem readFraction_eq_ok (h : readFraction s = .ok (o, rest)) :
    (∀ ds ∈ o, IsDigits ds) ∧
      ∀ n : Numeral, n.literal.fraction = o → s = n.fractionText ++ rest := by
  unfold readFraction at h
  split at h
  · obtain ⟨⟨ds, r⟩, hds, h⟩ := bind_eq_ok_iff.1 h
    cases h
    obtain ⟨hdigits, rfl⟩ := digits_eq_ok hds
    refine ⟨fun _ he => Option.some.inj he ▸ hdigits, fun n hn => ?_⟩
    rw [Numeral.fractionText, hn]
    rfl
  · cases h
    refine ⟨fun _ he => (Option.not_mem_none _ he).elim, fun n hn => ?_⟩
    rw [Numeral.fractionText, hn]
    rfl

theorem exponentDigits_eq_ok {down : Bool} (h : exponentDigits down s = .ok (x, rest)) :
    ∃ ds, x = some (down, ds) ∧ IsDigits ds ∧ s = ds ++ rest := by
  obtain ⟨⟨ds, r⟩, hds, h⟩ := bind_eq_ok_iff.1 h
  cases h
  exact ⟨ds, rfl, digits_eq_ok hds⟩

theorem readExponent_eq_ok (h : readExponent s = .ok (x, rest)) :
    (∀ e ∈ x, IsDigits e.2) ∧ ∃ capital plus, ∀ n : Numeral, n.literal.exponent = x →
      n.capital = capital → n.plus = plus → s = n.exponentText ++ rest := by
  have hmark {c : Char} (hc : c = 'e' ∨ c = 'E') : (if c = 'E' then 'E' else 'e') = c := by
    rcases hc with rfl | rfl <;> rfl
  cases s with
  | nil =>
    cases h
    refine ⟨nofun, false, false, fun n hn _ _ => ?_⟩
    rw [Numeral.exponentText, hn]
    rfl
  | cons c s =>
    unfold readExponent at h
    dsimp only at h
    split at h
    · rename_i hc
      -- The sign decides the reader of the digits and the numeral's `plus`.
      split at h
      · obtain ⟨ds, rfl, hds, rfl⟩ := exponentDigits_eq_ok h
        refine ⟨fun _ he => Option.some.inj he ▸ hds, c = 'E', true, fun n hn h1 h2 => ?_⟩
        simp [Numeral.exponentText, Numeral.sign, hn, h1, h2, hmark hc]
      · obtain ⟨ds, rfl, hds, rfl⟩ := exponentDigits_eq_ok h
        refine ⟨fun _ he => Option.some.inj he ▸ hds, c = 'E', false, fun n hn h1 h2 => ?_⟩
        simp [Numeral.exponentText, Numeral.sign, hn, h1, hmark hc]
      · obtain ⟨ds, rfl, hds, rfl⟩ := exponentDigits_eq_ok h
        refine ⟨fun _ he => Option.some.inj he ▸ hds, c = 'E', false, fun n hn h1 h2 => ?_⟩
        simp [Numeral.exponentText, Numeral.sign, hn, h1, h2, hmark hc]
    · cases h
      refine ⟨nofun, false, false, fun n hn _ _ => ?_⟩
      rw [Numeral.exponentText, hn]
      rfl

theorem unsigned_eq_ok (h : unsigned negative s = .ok (l, rest)) :
    ∃ n : Numeral, n.literal = l ∧ l.negative = negative ∧
      s = l.whole ++ (n.fractionText ++ (n.exponentText ++ rest)) := by
  obtain ⟨⟨whole, s1⟩, h1, h⟩ := bind_eq_ok_iff.1 h
  obtain ⟨⟨o, s2⟩, h2, h⟩ := bind_eq_ok_iff.1 h
  obtain ⟨⟨x, s3⟩, h3, h⟩ := bind_eq_ok_iff.1 h
  cases h
  obtain ⟨hwhole, e1⟩ := readWhole_eq_ok h1
  obtain ⟨hfraction, e2⟩ := readFraction_eq_ok h2
  obtain ⟨hexponent, capital, plus, e3⟩ := readExponent_eq_ok h3
  let n : Numeral := ⟨⟨negative, whole, o, x⟩, capital, plus, hwhole, hfraction, hexponent⟩
  refine ⟨n, rfl, rfl, ?_⟩
  calc s = whole ++ s1 := e1
    _ = whole ++ (n.fractionText ++ s2) := by rw [← e2 n rfl]
    _ = whole ++ (n.fractionText ++ (n.exponentText ++ rest)) := by rw [← e3 n rfl rfl rfl]

theorem read_eq_ok (h : read s = .ok (l, rest)) :
    ∃ n : Numeral, n.literal = l ∧ s = n.text ++ rest := by
  unfold read at h
  split at h
  · obtain ⟨n, rfl, hneg, rfl⟩ := unsigned_eq_ok h
    exact ⟨n, rfl, by simp [Numeral.text, hneg]⟩
  · obtain ⟨n, rfl, hneg, rfl⟩ := unsigned_eq_ok h
    exact ⟨n, rfl, by simp [Numeral.text, hneg]⟩

end Literal

theorem exists_numeral {v : Json} (h : number s = .ok (v, rest)) :
    ∃ n : Numeral, s = n.text ++ rest := by
  obtain ⟨⟨l, r⟩, hl, hv⟩ := bind_eq_ok_iff.1 h
  obtain ⟨n, -, hn⟩ := Literal.read_eq_ok hl
  dsimp only at hv
  split at hv
  · cases hv
    exact ⟨n, hn⟩
  · cases hv

/-! ### Items between commas -/

theorem exists_blanks (s : List Char) : ∃ b : Blanks, s = b.chars ++ skipSpace s := by
  refine ⟨⟨s.takeWhile isSpace, fun c hc => ?_⟩, List.takeWhile_append_dropWhile.symm⟩
  have hspace : isSpace c = true := List.all_eq_true.1 List.all_takeWhile c hc
  simpa only [isSpace, Bool.or_eq_true, beq_iff_eq, or_assoc] using hspace

/-- What skipping blanks leaves, with the blanks in front of it. -/
theorem exists_blanks_of_skipSpace (h : skipSpace s = t) : ∃ b : Blanks, s = b.chars ++ t :=
  h ▸ exists_blanks s

def Blanks.append (a b : Blanks) : Blanks :=
  ⟨a.chars ++ b.chars, fun c hc => (List.mem_append.1 hc).elim (a.isSpace c) (b.isSpace c)⟩

/-- What a reader takes off the front of a text is the text of a spelling, and with blanks around it
that is one too. -/
structure Takes {α σ : Type} (item : Reader α) (text : σ → List Char) : Prop where
  taken : ∀ {s rest x}, item s = .ok (x, rest) → ∃ e, s = text e ++ rest
  padded : ∀ (before : Blanks) e (after : Blanks),
    ∃ e', text e' = before.chars ++ (text e ++ after.chars)

section
variable {α σ : Type} {item : Reader α} {text : σ → List Char} {b : Brackets} {xs : List α}
  {fuel : Nat}

theorem next_eq_done (h : next b s = .ok (.done rest)) :
    ∃ before : Blanks, s = before.chars ++ b.close :: rest := by
  unfold next at h
  split at h
  · cases h
  · rename_i c t hs
    split at h
    · split at h
      · cases h
      · split at h <;> cases h
    · split at h
      · rename_i hc
        cases h
        exact exists_blanks_of_skipSpace (hc ▸ hs)
      · cases h

theorem next_eq_more (h : next b s = .ok (.more rest)) :
    ∃ before behind : Blanks, s = before.chars ++ ',' :: (behind.chars ++ rest) := by
  unfold next at h
  split at h
  · cases h
  · rename_i c t hs
    split at h
    · rename_i hc
      obtain ⟨before, hbefore⟩ := exists_blanks_of_skipSpace (hc ▸ hs)
      split at h
      · cases h
      · rename_i d u ht
        split at h
        · cases h
        · cases h
          obtain ⟨behind, hbehind⟩ := exists_blanks_of_skipSpace ht
          exact ⟨before, behind, hbehind ▸ hbefore⟩
    · split at h <;> cases h

/-- The induction is on the fuel; `before` are the blanks behind the last comma. -/
theorem exists_items_of_itemsFrom (ht : Takes item text) {acc : List α}
    (h : itemsFrom item b acc fuel s = .ok (xs, rest)) (before : Blanks) :
    ∃ e es, before.chars ++ s = joined ((e :: es).map text) ++ b.close :: rest := by
  induction fuel generalizing s acc before with
  | zero => cases h
  | succ fuel ih =>
    obtain ⟨⟨x, s1⟩, hx, hrest⟩ := bind_eq_ok_iff.1 h
    obtain ⟨n, hn, hmore⟩ := bind_eq_ok_iff.1 hrest
    obtain ⟨e, he⟩ := ht.taken hx
    rw [he]
    cases n with
    | done r =>
      cases hmore
      obtain ⟨after, rfl⟩ := next_eq_done hn
      obtain ⟨e', he'⟩ := ht.padded before e after
      exact ⟨e', [], by simp [joined, he']⟩
    | more r =>
      obtain ⟨after, behind, rfl⟩ := next_eq_more hn
      obtain ⟨e', he'⟩ := ht.padded before e after
      obtain ⟨e'', es, hes⟩ := ih hmore behind
      refine ⟨e', e'' :: es, ?_⟩
      show _ = (text e' ++ ',' :: joined ((e'' :: es).map text)) ++ b.close :: rest
      rw [he', hes]
      simp

theorem exists_items (ht : Takes item text) (h : items fuel item b s = .ok (xs, rest)) :
    ∃ (inner : Blanks) (es : List σ),
      s = inner.chars ++ (joined (es.map text) ++ b.close :: rest) := by
  unfold items at h
  split at h
  · cases h
  · rename_i c t hs
    obtain ⟨inner, rfl⟩ := exists_blanks_of_skipSpace hs
    split at h
    · rename_i hc
      cases h
      exact ⟨inner, [], by rw [hc]; rfl⟩
    · obtain ⟨e, es, hes⟩ := exists_items_of_itemsFrom ht h Blanks.none
      exact ⟨inner, e :: es, congrArg (inner.chars ++ ·) hes⟩

end

/-! ### Values -/

section
variable {v : Json} {fuel n : Nat}

theorem letters_eq_ok {ls : List Char} {v' : Json} (h : letters v ls s = .ok (v', rest)) :
    s = ls ++ rest := by
  induction ls generalizing s with
  | nil =>
    cases h
    rfl
  | cons l ls ih =>
    cases s with
    | nil => cases h
    | cons c s =>
      rw [letters] at h
      split at h
      · rename_i hc
        rw [hc, ih h]
        rfl
      · cases h

theorem exists_text_of_scalar (h : scalar s = .ok (v, rest)) :
    ∃ e : Spelling, s = e.text ++ rest := by
  cases s with
  | nil => cases h
  | cons c s =>
    rw [scalar] at h
    split at h
    · rename_i hc
      obtain ⟨⟨cs, r⟩, hcs, h⟩ := bind_eq_ok_iff.1 h
      cases h
      obtain ⟨ps, rfl⟩ := exists_pieces hcs
      exact ⟨.str ps, by simp [Spelling.text, Piece.quoted, hc]⟩
    · split at h
      · rename_i hc
        exact ⟨.null, by rw [hc, letters_eq_ok h]; rfl⟩
      · split at h
        · rename_i hc
          exact ⟨.bool true, by rw [hc, letters_eq_ok h]; rfl⟩
        · split at h
          · rename_i hc
            exact ⟨.bool false, by rw [hc, letters_eq_ok h]; rfl⟩
          · split at h
            · obtain ⟨m, hm⟩ := exists_numeral h
              exact ⟨.num m, hm⟩
            · cases h

theorem takes_member {read : Reader Json} (h : Takes read Spelling.text) :
    Takes (member read) Spelling.memberText where
  taken := by
    intro s rest m hm
    unfold member at hm
    split at hm
    · rename_i s1 hs
      obtain ⟨before, hbefore⟩ := exists_blanks_of_skipSpace hs
      obtain ⟨⟨key, s2⟩, hkey, hvalue⟩ := bind_eq_ok_iff.1 hm
      obtain ⟨ps, hps⟩ := exists_pieces hkey
      dsimp only at hvalue
      split at hvalue
      · rename_i s3 hs2
        obtain ⟨after, hafter⟩ := exists_blanks_of_skipSpace hs2
        obtain ⟨⟨v, r⟩, hv, hr⟩ := bind_eq_ok_iff.1 hvalue
        cases hr
        obtain ⟨e, he⟩ := h.taken hv
        refine ⟨(⟨before, ps, after⟩, e), ?_⟩
        rw [hbefore, hps, hafter, he]
        simp [Spelling.memberText, Key.text, Piece.quoted]
      · cases hvalue
      · cases hvalue
    · cases hm
  padded := by
    rintro before ⟨⟨b, ps, a⟩, e⟩ after
    obtain ⟨e', he'⟩ := h.padded .none e after
    exact ⟨(⟨before.append b, ps, a⟩, e'), by
      simp [Spelling.memberText, Key.text, Blanks.append, he', Blanks.none]⟩

/-- The induction is on the nesting that is allowed. -/
theorem takes_value (fuel n : Nat) : Takes (value fuel n) Spelling.text := by
  have padded (before : Blanks) (e : Spelling) (after : Blanks) :
      ∃ e' : Spelling, e'.text = before.chars ++ (e.text ++ after.chars) :=
    ⟨.padded before e after, rfl⟩
  -- The blanks in front of a value are part of its spelling.
  have front {before : Blanks} {t rest : List Char} (h : ∃ e : Spelling, t = e.text ++ rest) :
      ∃ e : Spelling, before.chars ++ t = e.text ++ rest := by
    obtain ⟨e, rfl⟩ := h
    exact ⟨.padded before e .none, by simp [Spelling.text, Blanks.none]⟩
  induction n with
  | zero =>
    refine ⟨fun {s rest v} h => ?_, padded⟩
    obtain ⟨before, hs⟩ := exists_blanks s
    unfold value at h
    split at h
    · cases h
    · cases h
    · rename_i hn _
      cases hn
    · rename_i hn _
      cases hn
    · rw [hs]
      exact front (exists_text_of_scalar h)
  | succ n ih =>
    refine ⟨fun {s rest v} h => ?_, padded⟩
    obtain ⟨before, hs⟩ := exists_blanks s
    rw [hs]
    refine front ?_
    unfold value at h
    split at h
    · rename_i hn _
      cases hn
    · rename_i hn _
      cases hn
    · rename_i m t hn hs
      cases hn
      obtain ⟨⟨xs, r⟩, hxs, hr⟩ := bind_eq_ok_iff.1 h
      cases hr
      obtain ⟨inner, es, rfl⟩ := exists_items ih hxs
      exact ⟨.arr inner es, by simp [hs, Spelling.text, Spelling.texts_eq, Brackets.array]⟩
    · rename_i m t hn hs
      cases hn
      obtain ⟨⟨ms, r⟩, hms, hr⟩ := bind_eq_ok_iff.1 h
      cases hr
      obtain ⟨inner, es, rfl⟩ := exists_items (takes_member ih) hms
      exact ⟨.obj inner es, by simp [hs, Spelling.text, Spelling.memberTexts_eq, Brackets.object]⟩
    · exact exists_text_of_scalar h

end

end DockLint.Json

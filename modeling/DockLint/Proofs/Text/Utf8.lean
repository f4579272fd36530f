import DockLint.Text.Utf8

/-!
# Reading what was encoded

A decoder between two characters takes the bytes of a character through states in which more is
owed and then has the character (`completes_encodeChar`). So encoding is undone
(`decodeLossy_encode`), and an encoded text that is cut anywhere is read as its characters up to the
cut, with a replacement character for the one that is cut short (`decodeLossy_cut`).
-/

namespace DockLint.Text.Utf8

open String (utf8EncodeChar)

variable {d : Decoder} {c : Char} {cs : List Char} {p bytes : List UInt8} {b : UInt8} {n : Nat}

namespace Decoder

/-- The decoder in another state. -/
def inState (d : Decoder) (s : State) : Decoder := { d with state := s }

theorem inState_eq_self {s : State} (h : d.state = s) : d.inState s = d := by
  subst h
  rfl

theorem push_toNat (d : Decoder) (c : Char) :
    d.push c.toNat = { d with state := .start, chars := c :: d.chars } := by
  rw [push, Char.ofNat_toNat]

/-! ### The first byte of a character -/

theorem lead_one (h : n < 0x80) : d.lead n = d.push n := by
  rw [lead, if_pos h]

theorem lead_two (h1 : 0xC2 ≤ n) (h2 : n < 0xE0) :
    d.lead n = d.inState (.tail 1 0x80 0xBF (n - 0xC0)) := by
  rw [lead, if_neg (by omega), if_neg (by omega), if_pos h2]
  rfl

/-- The byte behind E0 rules out overlong forms, the one behind ED surrogates. -/
theorem lead_three (h1 : 0xE0 ≤ n) (h2 : n < 0xF0) :
    d.lead n = d.inState (.tail 2 (if n = 0xE0 then 0xA0 else 0x80)
      (if n = 0xED then 0x9F else 0xBF) (n - 0xE0)) := by
  rw [lead, if_neg (by omega), if_neg (by omega), if_neg (by omega)]
  by_cases h3 : n = 0xE0
  · subst h3
    rfl
  · by_cases h4 : n = 0xED
    · subst h4
      rfl
    · rw [if_neg h3, if_neg h4, if_pos h2, if_neg h3, if_neg h4]
      rfl

/-- The byte behind F0 rules out overlong forms, the one behind F4 values past U+10FFFF. -/
theorem lead_four (h1 : 0xF0 ≤ n) (h2 : n ≤ 0xF4) :
    d.lead n = d.inState (.tail 3 (if n = 0xF0 then 0x90 else 0x80)
      (if n = 0xF4 then 0x8F else 0xBF) (n - 0xF0)) := by
  rw [lead, if_neg (by omega), if_neg (by omega), if_neg (by omega), if_neg (by omega),
    if_neg (by omega), if_neg (by omega)]
  by_cases h3 : n = 0xF0
  · subst h3
    rfl
  · by_cases h4 : n = 0xF4
    · subst h4
      rfl
    · rw [if_neg h3, if_pos (by omega), if_neg h3, if_neg h4]
      rfl

theorem feed_start (d : Decoder) (b : UInt8) :
    (d.inState .start).feed b = (d.inState .start).lead b.toNat := rfl

/-! ### The bytes behind it -/

theorem feed_more {owed lo hi bits : Nat} (h : lo ≤ b.toNat ∧ b.toNat ≤ hi) :
    (d.inState (.tail (owed + 2) lo hi bits)).feed b =
      d.inState (.tail (owed + 1) 0x80 0xBF (bits * 64 + (b.toNat - 0x80))) := by
  show (if lo ≤ b.toNat ∧ b.toNat ≤ hi then _ else _) = _
  rw [if_pos h, if_neg (by omega)]
  rfl

theorem feed_last {lo hi bits : Nat} (h : lo ≤ b.toNat ∧ b.toNat ≤ hi) :
    (d.inState (.tail 1 lo hi bits)).feed b = d.push (bits * 64 + (b.toNat - 0x80)) := by
  show (if lo ≤ b.toNat ∧ b.toNat ≤ hi then _ else _) = _
  rw [if_pos h, if_pos (Nat.le_refl 1)]
  rfl

/-! ### Encoded characters -/

/-- From a state on, bytes are the rest of a character: the last one completes it, and each before
it leaves more to come. -/
inductive Completes (d : Decoder) (c : Char) : State → List UInt8 → Prop where
  | last {s : State} {b : UInt8} (h : (d.inState s).feed b = d.push c.toNat) : Completes d c s [b]
  | more {s : State} {b : UInt8} {bytes : List UInt8} {owed lo hi bits : Nat}
    (h : (d.inState s).feed b = d.inState (.tail owed lo hi bits))
    (rest : Completes d c (.tail owed lo hi bits) bytes) : Completes d c s (b :: bytes)

theorem Completes.tail_last {lo hi bits : Nat} (h : lo ≤ b.toNat ∧ b.toNat ≤ hi)
    (hn : bits * 64 + (b.toNat - 0x80) = c.toNat) : Completes d c (.tail 1 lo hi bits) [b] :=
  .last (by rw [feed_last h, hn])

theorem Completes.tail_more {owed lo hi bits : Nat} (bits' : Nat) (h : lo ≤ b.toNat ∧ b.toNat ≤ hi)
    (hn : bits * 64 + (b.toNat - 0x80) = bits')
    (rest : Completes d c (.tail (owed + 1) 0x80 0xBF bits') bytes) :
    Completes d c (.tail (owed + 2) lo hi bits) (b :: bytes) :=
  .more (by rw [feed_more h, hn]) rest

theorem Completes.start_more {owed lo hi bits : Nat}
    (h : (d.inState .start).lead b.toNat = d.inState (.tail owed lo hi bits))
    (rest : Completes d c (.tail owed lo hi bits) bytes) : Completes d c .start (b :: bytes) :=
  .more h rest

/-- The cases are the lengths of an encoded character. -/
theorem completes_encodeChar (d : Decoder) (c : Char) :
    Completes d c .start (utf8EncodeChar c) := by
  have hbyte {n : Nat} (h : n < 256) : (UInt8.ofNat n).toNat = n :=
    UInt8.toNat_ofNat'.trans (Nat.mod_eq_of_lt h)
  have hvalid : c.toNat < 0xD800 ∨ 0xDFFF < c.toNat ∧ c.toNat < 0x110000 := c.valid
  simp only [utf8EncodeChar, Char.toNat_val]
  split
  · refine .last ?_
    rw [feed_start, hbyte (by omega), lead_one (by omega)]
    rfl
  · split
    · have h0 := hbyte (n := c.toNat / 64 % 32 + 192) (by omega)
      have h1 := hbyte (n := c.toNat % 64 + 128) (by omega)
      refine .start_more (lead_two (by omega) (by omega)) (.tail_last ?_ ?_) <;> omega
    · split
      · have h0 := hbyte (n := c.toNat / 4096 % 16 + 224) (by omega)
        have h1 := hbyte (n := c.toNat / 64 % 64 + 128) (by omega)
        have h2 := hbyte (n := c.toNat % 64 + 128) (by omega)
        refine .start_more (lead_three (by omega) (by omega))
          (.tail_more (c.toNat / 64) ?_ ?_ (.tail_last ?_ ?_))
        · split <;> split <;> omega
        all_goals omega
      · have h0 := hbyte (n := c.toNat / 262144 % 8 + 240) (by omega)
        have h1 := hbyte (n := c.toNat / 4096 % 64 + 128) (by omega)
        have h2 := hbyte (n := c.toNat / 64 % 64 + 128) (by omega)
        have h3 := hbyte (n := c.toNat % 64 + 128) (by omega)
        refine .start_more (lead_four (by omega) (by omega))
          (.tail_more (c.toNat / 4096) ?_ ?_
            (.tail_more (c.toNat / 64) ?_ ?_ (.tail_last ?_ ?_)))
        · split <;> split <;> omega
        all_goals omega

theorem Completes.foldl_feed {s : State} (h : Completes d c s bytes) :
    bytes.foldl feed (d.inState s) = d.push c.toNat := by
  induction h with
  | last h => exact h
  | more h rest ih => rw [List.foldl_cons, h, ih]

/-- A character that has begun and is cut short leaves more to come. -/
theorem Completes.foldl_feed_cut {s : State} (h : Completes d c s bytes) (hp : p <+: bytes)
    (hne : p ≠ []) (hlt : p ≠ bytes) :
    ∃ owed lo hi bits, p.foldl feed (d.inState s) = d.inState (.tail owed lo hi bits) := by
  induction h generalizing p with
  | last h =>
    rcases List.prefix_cons_iff.1 hp with rfl | ⟨t, rfl, ht⟩
    · exact absurd rfl hne
    · exact absurd (by rw [List.prefix_nil.1 ht]) hlt
  | more h rest ih =>
    rcases List.prefix_cons_iff.1 hp with rfl | ⟨t, rfl, ht⟩
    · exact absurd rfl hne
    · rw [List.foldl_cons, h]
      by_cases htne : t = []
      · rw [htne]
        exact ⟨_, _, _, _, rfl⟩
      · exact ih ht htne fun he => hlt (by rw [he])

theorem foldl_feed_encode (d : Decoder) (hd : d.state = .start) (cs : List Char) :
    (encode cs).foldl feed d = { d with chars := cs.reverse ++ d.chars } := by
  induction cs generalizing d with
  | nil => rfl
  | cons c cs ih =>
    have hc := (completes_encodeChar d c).foldl_feed
    rw [inState_eq_self hd, push_toNat] at hc
    rw [encode, List.flatMap_cons, List.foldl_append, hc]
    refine (ih _ rfl).trans ?_
    rw [List.reverse_cons, List.append_assoc, ← hd]
    rfl

end Decoder

theorem run_encode (cs : List Char) : Decoder.run (encode cs) = ⟨.start, cs.reverse, 0⟩ := by
  rw [Decoder.run, Decoder.foldl_feed_encode _ rfl]
  exact congrArg (Decoder.mk .start · 0) (List.append_nil _)

/-- Encoding is undone. -/
theorem decodeLossy_encode (cs : List Char) : decodeLossy (encode cs) = cs := by
  rw [decodeLossy, run_encode]
  exact List.reverse_reverse cs

/-- An encoded text is cut between two characters or within one. -/
theorem exists_cut (h : p <+: encode cs) :
    ∃ q r, q <+: cs ∧ p = encode q ++ r ∧
      (r = [] ∨ ∃ c, r <+: utf8EncodeChar c ∧ r ≠ [] ∧ r ≠ utf8EncodeChar c) := by
  induction cs generalizing p with
  | nil => exact ⟨[], [], List.nil_prefix, List.prefix_nil.1 h, .inl rfl⟩
  | cons c cs ih =>
    obtain ⟨t, ht⟩ := h
    rw [encode, List.flatMap_cons] at ht
    rcases List.append_eq_append_iff.1 ht with ⟨a, hc, -⟩ | ⟨p', rfl, hp'⟩
    · by_cases hp : p = []
      · exact ⟨[], [], List.nil_prefix, hp, .inl rfl⟩
      · by_cases hwhole : p = utf8EncodeChar c
        · exact ⟨[c], [], by simp, by simp [encode, hwhole], .inl rfl⟩
        · exact ⟨[], p, List.nil_prefix, rfl, .inr ⟨c, ⟨a, hc.symm⟩, hp, hwhole⟩⟩
    · obtain ⟨q, r, hq, rfl, hr⟩ := ih ⟨t, hp'.symm⟩
      refine ⟨c :: q, r, by simpa using hq, ?_, hr⟩
      rw [← List.append_assoc]
      rfl

/-- The characters in front of the cut, and a replacement character if one is cut short. -/
theorem decodeLossy_cut (h : p <+: encode cs) :
    ∃ q w, q <+: cs ∧ decodeLossy p = q ++ w ∧ (w = [] ∨ w = ['\uFFFD']) := by
  obtain ⟨q, r, hq, rfl, hr⟩ := exists_cut h
  rcases hr with rfl | ⟨c, hc, hne, hlt⟩
  · exact ⟨q, [], hq, by rw [List.append_nil, List.append_nil, decodeLossy_encode], .inl rfl⟩
  · refine ⟨q, ['\uFFFD'], hq, ?_, .inr rfl⟩
    have hcut := (Decoder.completes_encodeChar ⟨.start, q.reverse, 0⟩ c).foldl_feed_cut hc hne
      hlt
    obtain ⟨owed, lo, hi, bits, htail⟩ := hcut
    have hrun : Decoder.run (encode q ++ r) = ⟨.tail owed lo hi bits, q.reverse, 0⟩ := by
      rw [Decoder.run, List.foldl_append]
      show r.foldl Decoder.feed (Decoder.run (encode q)) = _
      rw [run_encode]
      exact htail
    rw [decodeLossy, hrun]
    show ('\uFFFD' :: q.reverse).reverse = _
    rw [List.reverse_cons, List.reverse_reverse]

end DockLint.Text.Utf8

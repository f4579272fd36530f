import Mathlib.Data.List.Induction
import DockLint.Proofs.Text.Seam
import DockLint.Proofs.Text.WellFormed

/-!
# Characters cut in two

A decoder waits for more just if the bytes it has read end with the beginning of a character
(`exists_beginning`), and it accepts just the bytes that this character can go on with
(`accepts_iff`). Bytes that go on with it are read as part of it when they are read together with
those before them, and as a fault each when they are read apart, so that more characters come out.
`decodeLossy_append_iff`: two byte strings can be read apart just if they do not part a character.
-/

namespace DockLint.Text.Utf8

open String (utf8EncodeChar)

variable {a bytes p r : List UInt8} {b : UInt8} {c : Char} {d : Decoder}

/-- Bytes that begin a character and leave more of it to come. -/
def IsBeginning (p : List UInt8) : Prop :=
  p ≠ [] ∧ ∃ c r, r ≠ [] ∧ utf8EncodeChar c = p ++ r

/-- The bytes end within a character. -/
def IsTruncated (bytes : List UInt8) : Prop :=
  ∃ front p, bytes = front ++ p ∧ IsBeginning p

/-- The bytes end within a character, and the byte behind them is one that this character can go on
with. -/
def Parts (a : List UInt8) (b : UInt8) : Prop :=
  ∃ front p c r, a = front ++ p ∧ p ≠ [] ∧ utf8EncodeChar c = p ++ b :: r

theorem Parts.isTruncated (h : Parts a b) : IsTruncated a := by
  obtain ⟨front, p, c, r, rfl, hp, hc⟩ := h
  exact ⟨front, p, rfl, hp, c, b :: r, List.cons_ne_nil b r, hc⟩

namespace Decoder

/-! ### What a decoder in the middle of a character has read -/

theorem exists_awaits (owed : Nat) {lo hi : Nat} (hb : lo ≤ b.toNat ∧ b.toNat ≤ hi) :
    ∃ r, Awaits owed lo hi (b :: r) := by
  induction owed generalizing b lo hi with
  | zero => exact ⟨[], .last (Nat.zero_le 1) hb⟩
  | succ owed ih =>
    by_cases h : owed + 1 ≤ 1
    · exact ⟨[], .last h hb⟩
    · have hcontinues : 0x80 ≤ (0x80 : UInt8).toNat ∧ (0x80 : UInt8).toNat ≤ 0xBF := by decide
      obtain ⟨r, hr⟩ := ih hcontinues
      exact ⟨0x80 :: r, .more h hb hr⟩

/-- The induction is on the bytes from the last one on: it begins a character or goes on with the
one that has begun before. -/
theorem exists_beginning {owed lo hi bits : Nat} (hs : (run a).state = .tail owed lo hi bits) :
    ∃ front p, a = front ++ p ∧ p ≠ [] ∧
      ∀ r, Awaits owed lo hi r → ∃ c, utf8EncodeChar c = p ++ r := by
  induction a using List.reverseRecOn generalizing owed lo hi bits with
  | nil => cases hs
  | append_singleton a b ih =>
    have hrun : run (a ++ [b]) = (run a).feed b := by rw [run, List.foldl_append]; rfl
    have hlead {e : Decoder} (hs : (e.lead b.toNat).state = .tail owed lo hi bits) :
        ∃ front p, a ++ [b] = front ++ p ∧ p ≠ [] ∧
          ∀ r, Awaits owed lo hi r → ∃ c, utf8EncodeChar c = p ++ r :=
      ⟨a, [b], rfl, List.cons_ne_nil b [], fun _ hr => exists_encodeChar_of_lead hs hr⟩
    rw [hrun] at hs
    revert hs
    fun_cases feed (run a) b with
    | case1 => exact hlead
    | case2 =>
      intro hs
      cases hs
    | case3 _ owed' lo' hi' bits' hbefore hb howed =>
      intro hs
      obtain ⟨rfl, rfl, rfl, rfl⟩ := State.tail.inj hs
      obtain ⟨front, p, rfl, hp, hrest⟩ := ih hbefore
      refine ⟨front, p ++ [b], List.append_assoc .., List.append_ne_nil_of_left_ne_nil hp [b],
        fun r hr => ?_⟩
      obtain ⟨c, hc⟩ := hrest (b :: r) (.more howed hb hr)
      exact ⟨c, by rw [hc, List.append_assoc]; rfl⟩
    | case4 => exact hlead

theorem parts_of_accepts (h : (run a).state.Accepts b) : Parts a b := by
  cases hs : (run a).state with
  | start =>
    rw [hs] at h
    exact h.elim
  | tail owed lo hi bits =>
    rw [hs] at h
    obtain ⟨front, p, rfl, hp, hrest⟩ := exists_beginning hs
    obtain ⟨r, hr⟩ := exists_awaits owed h
    obtain ⟨c, hc⟩ := hrest (b :: r) hr
    exact ⟨front, p, c, r, rfl, hp, hc⟩

/-! ### What a character goes on with -/

theorem Completes.faults {s : State} (h : Completes d c s (b :: r)) :
    ((d.inState s).feed b).faults = d.faults := by
  cases h with
  | last h => rw [h]; rfl
  | more h => rw [h]; rfl

/-- Behind the first bytes of a character a decoder waits for the others. -/
theorem Completes.rest {s : State} (h : Completes d c s (p ++ b :: r)) (hp : p ≠ []) :
    ∃ owed lo hi bits, p.foldl feed (d.inState s) = d.inState (.tail owed lo hi bits) ∧
      Completes d c (.tail owed lo hi bits) (b :: r) := by
  induction p generalizing s with
  | nil => exact absurd rfl hp
  | cons x p ih =>
    rw [List.cons_append] at h
    generalize hq : p ++ b :: r = q at h
    cases h with
    | last => exact absurd hq (List.append_ne_nil_of_right_ne_nil p (List.cons_ne_nil b r))
    | more hx hrest =>
      subst hq
      rw [List.foldl_cons, hx]
      cases p with
      | nil => exact ⟨_, _, _, _, rfl, hrest⟩
      | cons y p => exact ih hrest (List.cons_ne_nil y p)

theorem Completes.accepts {owed lo hi bits : Nat}
    (h : Completes d c (.tail owed lo hi bits) (b :: r)) :
    (State.tail owed lo hi bits).Accepts b := by
  by_contra hb
  have hfault : (d.inState (.tail owed lo hi bits)).feed b =
      (d.inState (.tail owed lo hi bits)).fault.lead b.toNat := if_neg hb
  have hle := faults_lead (d.inState (.tail owed lo hi bits)).fault b.toNat
  rw [← hfault, h.faults] at hle
  exact absurd hle (Nat.not_succ_le_self _)

/-- A continuation byte between two characters is a fault. -/
theorem feed_of_isContinuation (hs : d.state = .start) (hb : IsContinuation b) :
    d.feed b = d.fault := by
  have hhigh : ¬ b.toNat < 0x80 := Nat.not_lt.2 hb.1
  have hlow : b.toNat < 0xC2 := Nat.lt_of_le_of_lt hb.2 (by decide)
  rw [feed, hs]
  show d.lead b.toNat = d.fault
  rw [lead, if_neg hhigh, if_pos hlow]

/-- No character begins with a continuation byte. -/
theorem Completes.not_isContinuation (h : Completes d c .start (b :: r)) : ¬ IsContinuation b := by
  intro hb
  have heq := h.faults
  rw [feed_of_isContinuation rfl hb] at heq
  exact absurd heq (Nat.succ_ne_self _)

theorem accepts_of_parts (h : Parts a b) : (run a).state.Accepts b := by
  obtain ⟨front, p, c, r, rfl, hp, hc⟩ := h
  have hcompletes := completes_encodeChar init c
  rw [hc] at hcompletes
  obtain ⟨owed, lo, hi, bits, hrun, hrest⟩ := hcompletes.rest hp
  obtain ⟨x, p, rfl⟩ := List.exists_cons_of_ne_nil hp
  -- The first byte of the character is read as if nothing stood before it.
  have hx : ¬ (run front).state.Accepts x := fun h =>
    hcompletes.not_isContinuation (h.isContinuation (bounded_run front))
  have hstate : (run (front ++ x :: p)).state = (run (x :: p)).state := by
    rw [run_append_cons hx, following]
  have htail : (run (x :: p)).state = .tail owed lo hi bits := congrArg Decoder.state hrun
  rw [hstate, htail]
  exact hrest.accepts

theorem accepts_iff : (run a).state.Accepts b ↔ Parts a b :=
  ⟨parts_of_accepts, accepts_of_parts⟩

/-! ### How many characters come out -/

theorem finish_of_start (h : d.state = .start) : d.finish = d := by
  rw [finish, h]

theorem finish_of_tail {owed lo hi bits : Nat} (h : d.state = .tail owed lo hi bits) :
    d.finish = d.fault := by
  rw [finish, h]

/-- A byte that goes on with a character is part of it, whether or not more is to come. -/
theorem length_finish_feed (hb : d.state.Accepts b) :
    (d.feed b).finish.chars.length = d.finish.chars.length := by
  fun_cases feed d b with
  | case1 _ hs =>
    rw [hs] at hb
    exact hb.elim
  | case2 _ owed lo hi bits hs =>
    rw [finish_of_start rfl, finish_of_tail hs, push, fault, List.length_cons, List.length_cons]
  | case3 _ owed lo hi bits hs =>
    rw [finish_of_tail rfl, finish_of_tail hs]
    rfl
  | case4 _ owed lo hi bits hs hnot =>
    rw [hs] at hb
    exact absurd hb hnot

end Decoder

theorem Parts.isContinuation (h : Parts a b) : IsContinuation b :=
  (Decoder.accepts_of_parts h).isContinuation (Decoder.bounded_run a)

theorem decodeLossy_cons_of_isContinuation (hb : IsContinuation b) :
    decodeLossy (b :: bytes) = '\uFFFD' :: decodeLossy bytes := by
  have hfeed : Decoder.init.feed b = Decoder.init.fault := Decoder.feed_of_isContinuation rfl hb
  rw [decodeLossy_cons_of_start (by rw [hfeed]; rfl), hfeed]
  rfl

namespace Decoder

theorem length_finish_foldl_of_not_accepts (hb : ¬ d.state.Accepts b) :
    ((b :: bytes).foldl feed d).finish.chars.length =
      d.finish.chars.length + (decodeLossy (b :: bytes)).length := by
  rw [List.foldl_cons, ← feed_finish hb, ← List.foldl_cons, foldl_feed_of_start (state_finish d),
    following_finish, following, List.length_append, decodeLossy, List.length_reverse, Nat.add_comm]

/-- A byte that goes on with a character is a fault when it is read apart from it. -/
theorem length_finish_foldl_cons_lt (hd : d.state.Bounded) (hb : d.state.Accepts b)
    (h : (bytes.foldl feed (d.feed b)).finish.chars.length ≤
      (d.feed b).finish.chars.length + (decodeLossy bytes).length) :
    ((b :: bytes).foldl feed d).finish.chars.length <
      d.finish.chars.length + (decodeLossy (b :: bytes)).length := by
  rw [length_finish_feed hb] at h
  rw [decodeLossy_cons_of_isContinuation (hb.isContinuation hd), List.foldl_cons, List.length_cons]
  omega

/-- Together with the bytes before them, bytes are no more characters than by themselves. -/
theorem length_finish_foldl_le (hd : d.state.Bounded) (bytes : List UInt8) :
    (bytes.foldl feed d).finish.chars.length ≤
      d.finish.chars.length + (decodeLossy bytes).length := by
  induction bytes generalizing d with
  | nil => exact Nat.le_refl _
  | cons b bytes ih =>
    by_cases hb : d.state.Accepts b
    · exact Nat.le_of_lt (length_finish_foldl_cons_lt hd hb (ih (bounded_feed d b)))
    · exact Nat.le_of_eq (length_finish_foldl_of_not_accepts hb)

end Decoder

/-- Two byte strings are decoded apart just if no character stands across their seam. -/
theorem decodeLossy_append_iff : decodeLossy (a ++ bytes) = decodeLossy a ++ decodeLossy bytes ↔
    ¬ ∃ b, bytes.head? = some b ∧ Parts a b := by
  cases bytes with
  | nil => simp [decodeLossy_nil]
  | cons b bytes =>
    simp only [List.head?_cons, Option.some.injEq, exists_eq_left', ← Decoder.accepts_iff]
    constructor
    · intro heq hb
      have hlt := Decoder.length_finish_foldl_cons_lt (Decoder.bounded_run a) hb
        (Decoder.length_finish_foldl_le (Decoder.bounded_feed _ b) bytes)
      have hlength := congrArg List.length heq
      rw [List.length_append, decodeLossy, List.length_reverse, Decoder.run, List.foldl_append,
        ← Decoder.run, decodeLossy, List.length_reverse] at hlength
      exact absurd hlength (Nat.ne_of_lt hlt)
    · exact decodeLossy_append_of_not_accepts

end DockLint.Text.Utf8

import DockLint.Proofs.Text.Utf8

/-!
# Where two byte strings meet

A decoder in the middle of a character waits for a continuation byte (`bounded_run`), and a byte it
does not accept is read as if the bytes before it had ended. So bytes that begin with such a byte
are decoded apart from those before them (`decodeLossy_append_of_not_accepts`), and bytes that do
not begin with a continuation byte always are (`decodeLossy_append_cons`).
-/

namespace DockLint.Text.Utf8

variable {a bytes : List UInt8} {b : UInt8} {d : Decoder}

/-- A byte of a character that is not its first. -/
def IsContinuation (b : UInt8) : Prop :=
  0x80 ≤ b.toNat ∧ b.toNat ≤ 0xBF

namespace State

/-- No other bytes than continuation bytes are waited for. -/
def Bounded : State → Prop
  | .start => True
  | .tail _ lo hi _ => 0x80 ≤ lo ∧ hi ≤ 0xBF

/-- The byte goes on with the character that has begun. -/
def Accepts : State → UInt8 → Prop
  | .start, _ => False
  | .tail _ lo hi _, b => lo ≤ b.toNat ∧ b.toNat ≤ hi

theorem Accepts.isContinuation {s : State} (hs : s.Bounded) (h : s.Accepts b) :
    IsContinuation b := by
  cases s with
  | start => exact h.elim
  | tail owed lo hi bits => exact ⟨Nat.le_trans hs.1 h.1, Nat.le_trans h.2 hs.2⟩

end State

namespace Decoder

/-! ### What is waited for -/

theorem bounded_lead (d : Decoder) (n : Nat) : (d.lead n).state.Bounded := by
  fun_cases lead d n
  case case1 | case2 | case10 => exact trivial
  all_goals exact ⟨by decide, by decide⟩

theorem bounded_feed (d : Decoder) (b : UInt8) : (d.feed b).state.Bounded := by
  fun_cases feed d b with
  | case1 => exact bounded_lead d _
  | case2 => exact trivial
  | case3 => exact ⟨Nat.le_refl _, Nat.le_refl _⟩
  | case4 => exact bounded_lead d.fault _

theorem bounded_run (bytes : List UInt8) : (run bytes).state.Bounded := by
  rcases List.eq_nil_or_concat bytes with rfl | ⟨front, b, rfl⟩
  · exact trivial
  · rw [run, List.concat_eq_append, List.foldl_append]
    exact bounded_feed _ b

theorem state_finish (d : Decoder) : d.finish.state = .start := by
  fun_cases finish d with
  | case1 hs => exact hs
  | case2 => rfl

/-- A byte that is not waited for is read as if it came after the end. -/
theorem feed_finish (hb : ¬ d.state.Accepts b) : d.finish.feed b = d.feed b := by
  have hstart : d.finish.feed b = d.finish.lead b.toNat := by
    rw [feed, state_finish]
  rw [hstart]
  fun_cases feed d b with
  | case1 _ hs => rw [finish, hs]
  | case2 _ owed lo hi bits hs hin | case3 _ owed lo hi bits hs hin =>
    rw [hs] at hb
    exact absurd hin hb
  | case4 _ owed lo hi bits hs => rw [finish, hs]

/-! ### What has been read before -/

/-- The decoder with what `e` has read in front of what it has read itself. -/
def following (d e : Decoder) : Decoder :=
  ⟨d.state, d.chars ++ e.chars, d.faults + e.faults⟩

theorem following_fault (d e : Decoder) : (d.following e).fault = d.fault.following e := by
  rw [fault, fault, following, following, Nat.add_right_comm]
  rfl

theorem following_lead (d e : Decoder) (n : Nat) :
    (d.following e).lead n = (d.lead n).following e := by
  simp only [lead, apply_ite (following · e), following_fault]
  rfl

theorem following_feed (d e : Decoder) (b : UInt8) :
    (d.following e).feed b = (d.feed b).following e := by
  have hstate : (d.following e).state = d.state := rfl
  rw [feed, feed, hstate]
  cases d.state with
  | start => exact following_lead d e b.toNat
  | tail owed lo hi bits =>
    simp only [apply_ite (following · e), following_fault, following_lead]
    rfl

theorem following_foldl_feed (d e : Decoder) (bytes : List UInt8) :
    bytes.foldl feed (d.following e) = (bytes.foldl feed d).following e := by
  induction bytes generalizing d with
  | nil => rfl
  | cons b bytes ih => rw [List.foldl_cons, List.foldl_cons, following_feed, ih]

theorem following_finish (d e : Decoder) : (d.following e).finish = d.finish.following e := by
  have hstate : (d.following e).state = d.state := rfl
  rw [finish, finish, hstate]
  cases d.state with
  | start => rfl
  | tail owed lo hi bits => exact following_fault d e

theorem init_following (h : d.state = .start) : init.following d = d := by
  obtain ⟨state, chars, faults⟩ := d
  obtain rfl : state = .start := h
  rw [following, init, List.nil_append, Nat.zero_add]

/-- From a decoder between two characters, bytes are read as from the beginning. -/
theorem foldl_feed_of_start (h : d.state = .start) (bytes : List UInt8) :
    bytes.foldl feed d = (run bytes).following d := by
  rw [run, ← following_foldl_feed, init_following h]

theorem run_append_cons (hb : ¬ (run a).state.Accepts b) :
    run (a ++ b :: bytes) = (run (b :: bytes)).following (run a).finish := by
  rw [run, List.foldl_append, List.foldl_cons]
  show bytes.foldl feed ((run a).feed b) = _
  rw [← feed_finish hb, ← List.foldl_cons, foldl_feed_of_start (state_finish (run a))]

end Decoder

theorem decodeLossy_nil : decodeLossy [] = [] := rfl

theorem decodeLossy_append_of_not_accepts (hb : ¬ (Decoder.run a).state.Accepts b) :
    decodeLossy (a ++ b :: bytes) = decodeLossy a ++ decodeLossy (b :: bytes) := by
  rw [decodeLossy, Decoder.run_append_cons hb, Decoder.following_finish]
  exact List.reverse_append

/-- Bytes that do not begin with a continuation byte are decoded apart from those before them. -/
theorem decodeLossy_append_cons (hb : ¬ IsContinuation b) :
    decodeLossy (a ++ b :: bytes) = decodeLossy a ++ decodeLossy (b :: bytes) :=
  decodeLossy_append_of_not_accepts fun h => hb (h.isContinuation (Decoder.bounded_run a))

/-- A byte behind which nothing is waited for is decoded by itself. -/
theorem decodeLossy_cons_of_start (h : (Decoder.init.feed b).state = .start) :
    decodeLossy (b :: bytes) = (Decoder.init.feed b).chars.reverse ++ decodeLossy bytes := by
  rw [decodeLossy, Decoder.run, List.foldl_cons, Decoder.foldl_feed_of_start h,
    Decoder.following_finish]
  exact List.reverse_append

/-- A byte below 0x80 is a character by itself. -/
theorem decodeLossy_cons (hb : b.toNat < 0x80) :
    decodeLossy (b :: bytes) = Char.ofNat b.toNat :: decodeLossy bytes := by
  have hfeed : Decoder.init.feed b = Decoder.init.push b.toNat := Decoder.lead_one hb
  rw [decodeLossy_cons_of_start (by rw [hfeed]; rfl), hfeed]
  rfl

end DockLint.Text.Utf8

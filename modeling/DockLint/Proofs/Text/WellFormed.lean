import DockLint.Proofs.Text.Utf8

/-!
# What is read without a fault

A decoder that finds no fault in the rest of its input has the rest of a character in front of it,
then encoded characters (`follows_of_faultless`). So the encodings of texts are read strictly, each
as its text, and no other bytes are (`decode?_eq_some_iff`).
-/

namespace DockLint.Text.Utf8

open String (utf8EncodeChar)

/-- The bytes a state waits for when `owed` are missing, the first of them between `lo` and `hi`. -/
inductive Awaits : (owed lo hi : Nat) → List UInt8 → Prop where
  | last {owed lo hi : Nat} {b : UInt8} (h : owed ≤ 1) (hb : lo ≤ b.toNat ∧ b.toNat ≤ hi) :
    Awaits owed lo hi [b]
  | more {owed lo hi : Nat} {b : UInt8} {bytes : List UInt8} (h : ¬ owed ≤ 1)
    (hb : lo ≤ b.toNat ∧ b.toNat ≤ hi) (rest : Awaits (owed - 1) 0x80 0xBF bytes) :
    Awaits owed lo hi (b :: bytes)

variable {d : Decoder} {cs : List Char} {bytes rest : List UInt8} {b b₁ b₂ b₃ : UInt8}
  {lo hi : Nat}

theorem Awaits.exists_one (h : Awaits 1 lo hi bytes) :
    ∃ b, bytes = [b] ∧ lo ≤ b.toNat ∧ b.toNat ≤ hi := by
  cases h with
  | last _ hb => exact ⟨_, rfl, hb⟩
  | more h => exact absurd (Nat.le_refl 1) h

theorem Awaits.exists_two (h : Awaits 2 lo hi bytes) :
    ∃ b₁ b₂, bytes = [b₁, b₂] ∧ (lo ≤ b₁.toNat ∧ b₁.toNat ≤ hi) ∧
      0x80 ≤ b₂.toNat ∧ b₂.toNat ≤ 0xBF := by
  cases h with
  | last h => omega
  | more _ hb rest =>
    obtain ⟨b₂, rfl, h₂⟩ := rest.exists_one
    exact ⟨_, b₂, rfl, hb, h₂⟩

theorem Awaits.exists_three (h : Awaits 3 lo hi bytes) :
    ∃ b₁ b₂ b₃, bytes = [b₁, b₂, b₃] ∧ (lo ≤ b₁.toNat ∧ b₁.toNat ≤ hi) ∧
      (0x80 ≤ b₂.toNat ∧ b₂.toNat ≤ 0xBF) ∧ 0x80 ≤ b₃.toNat ∧ b₃.toNat ≤ 0xBF := by
  cases h with
  | last h => omega
  | more _ hb rest =>
    obtain ⟨b₂, b₃, rfl, h₂, h₃⟩ := rest.exists_two
    exact ⟨_, b₂, b₃, rfl, hb, h₂, h₃⟩

/-! ### Bytes that encode a character -/

theorem exists_char {n : Nat} (h : n.isValidChar) : ∃ c : Char, c.toNat = n :=
  ⟨Char.ofNatAux n h, rfl⟩

theorem ofNat_eq_of_toNat {n : Nat} (h : b.toNat = n) : UInt8.ofNat n = b := by
  rw [← h, UInt8.ofNat_toNat]

theorem exists_encodeChar_one (h : b.toNat < 0x80) : ∃ c, utf8EncodeChar c = [b] := by
  obtain ⟨c, hc⟩ := exists_char (n := b.toNat) (.inl (by omega))
  refine ⟨c, ?_⟩
  simp only [utf8EncodeChar, Char.toNat_val, hc]
  rw [if_pos (by omega), UInt8.ofNat_toNat]

theorem exists_encodeChar_two (h : 0xC2 ≤ b.toNat ∧ b.toNat < 0xE0)
    (h₁ : 0x80 ≤ b₁.toNat ∧ b₁.toNat ≤ 0xBF) : ∃ c, utf8EncodeChar c = [b, b₁] := by
  obtain ⟨c, hc⟩ := exists_char (n := (b.toNat - 0xC0) * 64 + (b₁.toNat - 0x80)) (.inl (by omega))
  refine ⟨c, ?_⟩
  simp only [utf8EncodeChar, Char.toNat_val, hc]
  rw [if_neg (by omega), if_pos (by omega), ofNat_eq_of_toNat (b := b) (by omega),
    ofNat_eq_of_toNat (b := b₁) (by omega)]

theorem exists_encodeChar_three (h : 0xE0 ≤ b.toNat ∧ b.toNat < 0xF0)
    (h₁ : (if b.toNat = 0xE0 then 0xA0 else 0x80) ≤ b₁.toNat ∧
      b₁.toNat ≤ if b.toNat = 0xED then 0x9F else 0xBF)
    (h₂ : 0x80 ≤ b₂.toNat ∧ b₂.toNat ≤ 0xBF) : ∃ c, utf8EncodeChar c = [b, b₁, b₂] := by
  have hvalid : Nat.isValidChar
      (((b.toNat - 0xE0) * 64 + (b₁.toNat - 0x80)) * 64 + (b₂.toNat - 0x80)) := by
    rw [Nat.isValidChar]
    split at h₁ <;> split at h₁ <;> omega
  obtain ⟨c, hc⟩ := exists_char hvalid
  refine ⟨c, ?_⟩
  have hlow : ¬ ((b.toNat - 0xE0) * 64 + (b₁.toNat - 0x80)) * 64 + (b₂.toNat - 0x80) < 0x800 := by
    split at h₁ <;> omega
  have h₁' : 0x80 ≤ b₁.toNat ∧ b₁.toNat ≤ 0xBF := by
    split at h₁ <;> split at h₁ <;> omega
  simp only [utf8EncodeChar, Char.toNat_val, hc]
  rw [if_neg (by omega), if_neg (by omega), if_pos (by omega),
    ofNat_eq_of_toNat (b := b) (by omega), ofNat_eq_of_toNat (b := b₁) (by omega),
    ofNat_eq_of_toNat (b := b₂) (by omega)]

theorem exists_encodeChar_four (h : 0xF0 ≤ b.toNat ∧ b.toNat ≤ 0xF4)
    (h₁ : (if b.toNat = 0xF0 then 0x90 else 0x80) ≤ b₁.toNat ∧
      b₁.toNat ≤ if b.toNat = 0xF4 then 0x8F else 0xBF)
    (h₂ : 0x80 ≤ b₂.toNat ∧ b₂.toNat ≤ 0xBF) (h₃ : 0x80 ≤ b₃.toNat ∧ b₃.toNat ≤ 0xBF) :
    ∃ c, utf8EncodeChar c = [b, b₁, b₂, b₃] := by
  have hlow : 0x10 ≤ (b.toNat - 0xF0) * 64 + (b₁.toNat - 0x80) := by
    split at h₁ <;> omega
  have hhigh : (b.toNat - 0xF0) * 64 + (b₁.toNat - 0x80) < 0x110 := by
    split at h₁ <;> split at h₁ <;> omega
  have h₁' : 0x80 ≤ b₁.toNat ∧ b₁.toNat ≤ 0xBF := by
    split at h₁ <;> split at h₁ <;> omega
  obtain ⟨c, hc⟩ := exists_char (n := (((b.toNat - 0xF0) * 64 + (b₁.toNat - 0x80)) * 64 +
    (b₂.toNat - 0x80)) * 64 + (b₃.toNat - 0x80)) (.inr (by omega))
  refine ⟨c, ?_⟩
  simp only [utf8EncodeChar, Char.toNat_val, hc]
  rw [if_neg (by omega), if_neg (by omega), if_neg (by omega),
    ofNat_eq_of_toNat (b := b) (by omega), ofNat_eq_of_toNat (b := b₁) (by omega),
    ofNat_eq_of_toNat (b := b₂) (by omega), ofNat_eq_of_toNat (b := b₃) (by omega)]

/-! ### The rest of a faultless run -/

/-- What follows a state in well-formed bytes. -/
def State.Follows : State → List UInt8 → Prop
  | .start, bytes => ∃ cs, bytes = encode cs
  | .tail owed lo hi _, bytes => ∃ r cs, Awaits owed lo hi r ∧ bytes = r ++ encode cs

theorem follows_start_cons {r : List UInt8} (hr : ∃ c, utf8EncodeChar c = b :: r) :
    State.Follows .start (b :: (r ++ encode cs)) := by
  obtain ⟨c, hc⟩ := hr
  refine ⟨c :: cs, ?_⟩
  show _ = (c :: cs).flatMap utf8EncodeChar
  rw [List.flatMap_cons, hc]
  rfl

namespace Decoder

theorem faults_lead (d : Decoder) (n : Nat) : d.faults ≤ (d.lead n).faults := by
  fun_cases lead d n <;> first | exact Nat.le_refl _ | exact Nat.le_succ _

theorem faults_feed (d : Decoder) (b : UInt8) : d.faults ≤ (d.feed b).faults := by
  fun_cases feed d b
  · exact faults_lead d _
  · exact Nat.le_refl _
  · exact Nat.le_refl _
  · exact Nat.le_trans (Nat.le_succ _) (faults_lead d.fault _)

theorem faults_foldl_feed (d : Decoder) (bytes : List UInt8) :
    d.faults ≤ (bytes.foldl feed d).faults := by
  induction bytes generalizing d with
  | nil => exact Nat.le_refl _
  | cons b bytes ih => exact Nat.le_trans (faults_feed d b) (ih (d.feed b))

theorem faults_finish (d : Decoder) : d.faults ≤ d.finish.faults := by
  fun_cases finish d
  · exact Nat.le_refl _
  · exact Nat.le_succ _

/-- No character begins with a byte past F4. -/
theorem lead_past {n : Nat} (h : 0xF4 < n) : d.lead n = d.fault := by
  rw [lead, if_neg (by omega), if_neg (by omega), if_neg (by omega), if_neg (by omega),
    if_neg (by omega), if_neg (by omega), if_neg (by omega), if_neg (by omega), if_neg (by omega)]

/-- A byte that is no character by itself either leaves more to come or is a fault. -/
theorem faults_lead_of_start {n : Nat} (hn : ¬ n < 0x80) (hs : (d.lead n).state = .start) :
    (d.lead n).faults = d.faults + 1 := by
  revert hs
  fun_cases lead d n
  case case1 h => exact absurd h hn
  case case2 | case10 => exact fun _ => rfl
  all_goals
    intro hs
    cases hs

/-- The cases are the lengths of a character, by its first byte. -/
theorem exists_encodeChar_of_lead {owed bits : Nat}
    (hs : (d.lead b.toNat).state = .tail owed lo hi bits) (hr : Awaits owed lo hi rest) :
    ∃ c, utf8EncodeChar c = b :: rest := by
  by_cases h1 : b.toNat < 0x80
  · rw [lead_one h1] at hs
    cases hs
  by_cases h2 : b.toNat < 0xC2
  · rw [lead, if_neg h1, if_pos h2] at hs
    cases hs
  by_cases h3 : b.toNat < 0xE0
  · rw [lead_two (by omega) h3] at hs
    obtain ⟨rfl, rfl, rfl, rfl⟩ := State.tail.inj hs
    obtain ⟨b₁, rfl, h₁⟩ := hr.exists_one
    exact exists_encodeChar_two (by omega) h₁
  by_cases h4 : b.toNat < 0xF0
  · rw [lead_three (by omega) h4] at hs
    obtain ⟨rfl, rfl, rfl, rfl⟩ := State.tail.inj hs
    obtain ⟨b₁, b₂, rfl, h₁, h₂⟩ := hr.exists_two
    exact exists_encodeChar_three (by omega) h₁ h₂
  by_cases h5 : b.toNat ≤ 0xF4
  · rw [lead_four (by omega) h5] at hs
    obtain ⟨rfl, rfl, rfl, rfl⟩ := State.tail.inj hs
    obtain ⟨b₁, b₂, b₃, rfl, h₁, h₂, h₃⟩ := hr.exists_three
    exact exists_encodeChar_four (by omega) h₁ h₂ h₃
  · rw [lead_past (by omega)] at hs
    cases hs

theorem follows_of_lead (hd : (d.lead b.toNat).faults = d.faults)
    (h : (d.lead b.toNat).state.Follows rest) : State.Follows .start (b :: rest) := by
  by_cases hb : b.toNat < 0x80
  · rw [lead_one hb] at h
    obtain ⟨cs, rfl⟩ := h
    exact follows_start_cons (exists_encodeChar_one hb)
  cases hs : (d.lead b.toNat).state with
  | start =>
    rw [faults_lead_of_start hb hs] at hd
    exact absurd hd (Nat.succ_ne_self _)
  | tail owed lo hi bits =>
    rw [hs] at h
    obtain ⟨r, cs, hr, rfl⟩ := h
    exact follows_start_cons (exists_encodeChar_of_lead hs hr)

/-- One byte read without a fault. -/
theorem follows_of_feed (hd : (d.feed b).faults = d.faults)
    (h : (d.feed b).state.Follows rest) : d.state.Follows (b :: rest) := by
  revert hd h
  fun_cases feed d b with
  | case1 _ hs =>
    rw [hs]
    exact follows_of_lead
  | case2 _ owed lo hi bits hs hb howed =>
    rintro - ⟨cs, rfl⟩
    rw [hs]
    exact ⟨[b], cs, .last howed hb, rfl⟩
  | case3 _ owed lo hi bits hs hb howed =>
    rintro - ⟨r, cs, hr, rfl⟩
    rw [hs]
    exact ⟨b :: r, cs, .more howed hb hr, rfl⟩
  | case4 =>
    -- The byte does not belong to the character, which is a fault whatever the byte begins.
    intro hd
    have hle := faults_lead d.fault b.toNat
    rw [hd] at hle
    exact absurd hle (Nat.not_succ_le_self _)

/-- A run without a fault, by induction on the bytes it reads. -/
theorem follows_of_faultless (h : (bytes.foldl feed d).finish.faults = d.faults) :
    d.state.Follows bytes := by
  induction bytes generalizing d with
  | nil =>
    revert h
    fun_cases finish d with
    | case1 hs =>
      intro _
      rw [hs]
      exact ⟨[], rfl⟩
    | case2 => exact fun h => absurd h (Nat.succ_ne_self _)
  | cons b bytes ih =>
    -- Faults are never taken back, so each step has to be without one.
    have hfeed := faults_feed d b
    have hrun := faults_foldl_feed (d.feed b) bytes
    have hend := faults_finish (bytes.foldl feed (d.feed b))
    rw [List.foldl_cons] at h
    exact follows_of_feed (by omega) (ih (by omega))

end Decoder

theorem decode?_encode (cs : List Char) : decode? (encode cs) = some cs := by
  simp only [decode?, run_encode]
  exact congrArg some (List.reverse_reverse cs)

/-- The encodings of texts are read, each as its text, and nothing else is. -/
theorem decode?_eq_some_iff : decode? bytes = some cs ↔ bytes = encode cs := by
  constructor
  · intro h
    have hfaults : (Decoder.run bytes).finish.faults = 0 := by
      rw [decode?] at h
      split at h
      · assumption
      · cases h
    obtain ⟨cs', rfl⟩ := Decoder.follows_of_faultless (d := .init) hfaults
    rw [decode?_encode, Option.some.injEq] at h
    rw [h]
  · rintro rfl
    exact decode?_encode cs

end DockLint.Text.Utf8

namespace DockLint

theorem ofUtf8?_eq_some_iff {bytes : List UInt8} {text : String} :
    ofUtf8? bytes = some text ↔ bytes = utf8 text := by
  rw [ofUtf8?, Option.map_eq_some_iff]
  constructor
  · rintro ⟨cs, h, rfl⟩
    rw [utf8, String.toList_ofList]
    exact Text.Utf8.decode?_eq_some_iff.1 h
  · intro h
    exact ⟨text.toList, Text.Utf8.decode?_eq_some_iff.2 h, String.ofList_toList⟩

end DockLint

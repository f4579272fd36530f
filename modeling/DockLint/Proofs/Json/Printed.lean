import DockLint.Proofs.Json.Canonical

/-!
# Printed values as spellings

What is printed with one item to a line is JSON: `text_arr` and `text_obj` say how the spellings of
the parts make up that of an array or object. A string is spelled with the escapes that it is
printed with (`quoted_ofString`, `decode_ofString`), a natural number with its digits. What an
object `Says` is what its value has under the key (`says_iff_of_value?`).
-/

namespace DockLint.Json

/-! ### Strings -/

namespace CodeUnit

/-- The code unit of a control character, with the digits it is printed with. -/
def low (n : Nat) (h : n < 0x20) : CodeUnit :=
  ⟨⟨0, false⟩, ⟨0, false⟩, ⟨⟨n / 16, by omega⟩, false⟩, ⟨⟨n % 16, Nat.mod_lt _ (by decide)⟩, false⟩⟩

variable {n : Nat} {h : n < 0x20}

theorem value_low : (low n h).value = n := by
  have hdigits : ((0 * 16 + 0) * 16 + n / 16) * 16 + n % 16 = n := by omega
  exact hdigits

theorem chars_low : (low n h).chars = ['0', '0', hexDigit (n / 16), hexDigit (n % 16)] := by
  have hchar : ∀ d : Fin 16, HexDigit.char ⟨d, false⟩ = hexDigit d := by decide
  rw [chars, low, hchar, hchar, hchar]
  rfl

end CodeUnit

namespace Piece

/-- A character as it is printed. -/
def ofChar (c : Char) : Piece :=
  if hq : c = '\x22' then short .quote
  else if hb : c = '\\' then short .backslash
  else if c = '\x08' then short .backspace
  else if c = '\x0c' then short .formFeed
  else if c = '\n' then short .lineFeed
  else if c = '\r' then short .carriageReturn
  else if c = '\t' then short .tab
  else if h : c.toNat < 0x20 then unit (.low c.toNat h)
  else plain c ⟨hq, hb, Nat.not_lt.1 h⟩

def ofString (s : String) : List Piece :=
  s.toList.map ofChar

/-- A character without an escape of its own. -/
theorem ofChar_eq {c : Char} (hq : c ≠ '\x22') (hb : c ≠ '\\') (h8 : c ≠ '\x08')
    (hf : c ≠ '\x0c') (hn : c ≠ '\n') (hr : c ≠ '\r') (ht : c ≠ '\t') :
    ofChar c = if h : c.toNat < 0x20 then unit (.low c.toNat h)
      else plain c ⟨hq, hb, Nat.not_lt.1 h⟩ := by
  rw [ofChar, dif_neg hq, dif_neg hb, if_neg h8, if_neg hf, if_neg hn, if_neg hr, if_neg ht]

theorem text_ofChar (c : Char) : (ofChar c).text = escape c := by
  -- Both take the same characters apart, the printer by matching on them.
  fun_cases escape c with
  | case8 c hq hb h8 hf hn hr ht h =>
    rw [ofChar_eq hq hb h8 hf hn hr ht, dif_pos h, text, CodeUnit.chars_low]
  | case9 c hq hb h8 hf hn hr ht h =>
    rw [ofChar_eq hq hb h8 hf hn hr ht, dif_neg h, text]
  | _ => rfl

theorem decode_unit {u : CodeUnit} (h : u.value < 0xD800) (ps : List Piece) :
    decode (unit u :: ps) = (decode ps).map (Char.ofNat u.value :: ·) := by
  have hlead : isLeadingSurrogate u.value = false := by
    rw [isLeadingSurrogate, decide_eq_false (Nat.not_le.2 h), Bool.false_and]
  have htrail : isTrailingSurrogate u.value = false := by
    rw [isTrailingSurrogate, decide_eq_false (by omega), Bool.false_and]
  rw [decode.eq_def]
  simp only [hlead, htrail, Bool.false_eq_true, if_false]

theorem decode_ofChar (c : Char) (ps : List Piece) :
    decode (ofChar c :: ps) = (decode ps).map (c :: ·) := by
  fun_cases ofChar c with
  | case8 _ _ _ _ _ _ _ h =>
    rw [decode_unit (CodeUnit.value_low.symm ▸ Nat.lt_trans h (by decide)), CodeUnit.value_low,
      Char.ofNat_toNat]
  | case9 => rw [decode]
  | _ =>
    subst_vars
    rw [decode]
    rfl

theorem decode_ofString (s : String) : decode (ofString s) = some s.toList := by
  rw [ofString]
  induction s.toList with
  | nil => rfl
  | cons c cs ih => rw [List.map_cons, decode_ofChar, ih, Option.map_some]

theorem quoted_ofString (s : String) : quoted (ofString s) = renderString s.toList := by
  rw [quoted, ofString, List.flatMap_map, renderString]
  exact congrArg (fun f => '\x22' :: (s.toList.flatMap f ++ ['\x22'])) (funext text_ofChar)

end Piece

/-! ### Numbers -/

/-- Digits that begin with a zero are those of zero. -/
theorem head?_toDigits (n : Nat) (h : (Nat.toDigits 10 n).head? = some '0') : n = 0 := by
  induction n using Nat.strongRecOn with
  | ind n ih =>
    by_cases hn : n < 10
    · rw [Nat.toDigits_of_lt_base hn, List.head?_cons, Option.some.injEq] at h
      have hdigit : ∀ d : Fin 10, d.val.digitChar = '0' → d.val = 0 := by decide
      exact hdigit ⟨n, hn⟩ h
    · have hfront := List.head?_eq_some_head (Nat.toDigits_ne_nil (n := n / 10) (b := 10))
      rw [Nat.toDigits_of_base_le (by decide) (Nat.not_lt.1 hn), List.head?_append, hfront,
        Option.some_or, ← hfront] at h
      have hzero := ih (n / 10) (by omega) h
      omega

theorem isWhole_toDigits (n : Nat) : IsWhole (Nat.toDigits 10 n) := by
  refine ⟨⟨Nat.toDigits_ne_nil, fun c hc => ?_⟩, fun h => ?_⟩
  · exact Nat.isDigit_of_mem_toDigits (by decide) (by decide) hc
  · rw [head?_toDigits n h, Nat.toDigits_zero]

/-- A natural number as it is printed. -/
def Numeral.ofNat (n : Nat) : Numeral where
  literal := ⟨false, Nat.toDigits 10 n, none, none⟩
  capital := false
  plus := false
  whole := isWhole_toDigits n
  fraction := by simp
  exponent := by simp

theorem Numeral.text_ofNat (n : Nat) : (Numeral.ofNat n).text = (Number.natural n).render :=
  List.append_nil _

/-! ### Arrays and objects -/

/-- The line break in front of an item and its indentation. -/
def Blanks.newline (depth : Nat) : Blanks where
  chars := Json.newline depth
  isSpace c hc := by
    rcases List.mem_cons.1 hc with rfl | hc
    · exact .inr (.inr (.inl rfl))
    · exact .inl (List.eq_of_mem_replicate hc)

def Blanks.space : Blanks := ⟨[' '], by simp⟩

/-- What stands behind an item: for the last one, the line break in front of the closing bracket. -/
def Blanks.behind (depth : Nat) (last : Bool) : Blanks :=
  if last then .newline depth else .none

namespace Spelling

/-- Elements, each on a line of its own. -/
def layElements (depth : Nat) : List Spelling → List Spelling
  | [] => []
  | e :: es =>
    padded (.newline (depth + 1)) e (.behind depth es.isEmpty) :: layElements depth es

/-- Members, each on a line of its own. -/
def layMembers (depth : Nat) : List (String × Spelling) → List (Key × Spelling)
  | [] => []
  | (key, e) :: ms =>
    (⟨.newline (depth + 1), Piece.ofString key, .none⟩,
      padded .space e (.behind depth ms.isEmpty)) :: layMembers depth ms

variable {depth : Nat} {es : List Spelling} {vs : List Json} {ms : List (String × Spelling)}
  {members : List (String × Json)}

/-- Texts on lines of their own. -/
def layTexts (depth : Nat) : List (List Char) → List (List Char)
  | [] => []
  | t :: ts => (Json.newline (depth + 1) ++ (t ++ (Blanks.behind depth ts.isEmpty).chars)) ::
      layTexts depth ts

/-- What is printed for each text behind the first. -/
def moreTexts (depth : Nat) (ts : List (List Char)) : List Char :=
  ts.flatMap fun t => ',' :: (Json.newline depth ++ t)

theorem joined_layTexts (depth : Nat) (t : List Char) (ts : List (List Char)) :
    joined (layTexts depth (t :: ts)) =
      Json.newline (depth + 1) ++ t ++ moreTexts (depth + 1) ts ++ Json.newline depth := by
  induction ts generalizing t with
  | nil =>
    show Json.newline (depth + 1) ++ (t ++ Json.newline depth) = _
    simp [moreTexts]
  | cons t' ts ih =>
    show Json.newline (depth + 1) ++ (t ++ []) ++ ',' :: joined (layTexts depth (t' :: ts)) = _
    rw [ih]
    simp [moreTexts]

theorem texts_layElements (depth : Nat) (es : List Spelling) :
    texts (layElements depth es) = layTexts depth (es.map text) := by
  induction es with
  | nil => rfl
  | cons e es ih =>
    rw [layElements, texts, ih, text, List.map_cons, layTexts, List.isEmpty_map]
    rfl

/-- A member as it is printed, apart from the line break in front of it. -/
def memberLine (m : String × Spelling) : List Char :=
  renderString m.1.toList ++ ':' :: ' ' :: m.2.text

theorem memberTexts_layMembers (depth : Nat) (ms : List (String × Spelling)) :
    memberTexts (layMembers depth ms) = layTexts depth (ms.map memberLine) := by
  induction ms with
  | nil => rfl
  | cons m ms ih =>
    rw [layMembers, memberTexts, ih, List.map_cons, layTexts, List.isEmpty_map, Key.text,
      Piece.quoted_ofString, text, memberLine]
    simp [Blanks.space, Blanks.newline, Blanks.none]

theorem renderMoreElements_eq (depth : Nat) (vs : List Json) :
    renderMoreElements depth vs = moreTexts depth (vs.map (renderDeep depth)) := by
  induction vs with
  | nil => rfl
  | cons v vs ih =>
    rw [renderMoreElements, ih]
    rfl

theorem renderMoreMembers_eq (depth : Nat) (ms : List (String × Json)) :
    renderMoreMembers depth ms = moreTexts depth
      (ms.map fun m => renderString m.1.toList ++ ':' :: ' ' :: m.2.renderDeep depth) := by
  induction ms with
  | nil => rfl
  | cons m ms ih =>
    rw [renderMoreMembers, ih]
    simp [moreTexts]

/-- An array with its elements on lines of their own is what is printed of it. -/
theorem text_arr (h : es.map text = vs.map (renderDeep (depth + 1))) :
    (arr .none (layElements depth es)).text = (Json.arr vs).renderDeep depth := by
  rw [text, texts_layElements, h]
  cases vs with
  | nil => rfl
  | cons v vs =>
    rw [List.map_cons, joined_layTexts, ← renderMoreElements_eq, renderDeep]
    simp [Blanks.none]

/-- An object with its members on lines of their own is what is printed of it. -/
theorem text_obj (h : ms.map (fun m => (m.1, m.2.text)) =
      members.map fun m => (m.1, m.2.renderDeep (depth + 1))) :
    (obj .none (layMembers depth ms)).text = (Json.obj members).renderDeep depth := by
  have hlines : ms.map memberLine = members.map fun m =>
      renderString m.1.toList ++ ':' :: ' ' :: m.2.renderDeep (depth + 1) := by
    have hline := congrArg
      (List.map fun m => renderString m.1.toList ++ ':' :: ' ' :: m.2) h
    rw [List.map_map, List.map_map] at hline
    exact hline
  rw [text, memberTexts_layMembers, hlines]
  cases members with
  | nil => rfl
  | cons m members =>
    rw [List.map_cons, joined_layTexts, ← renderMoreMembers_eq, renderDeep]
    simp [Blanks.none]

/-! ### What an object says -/

/-- An object with a member that spells the string under the key. -/
def Says (key value : String) : Spelling → Prop
  | padded _ s _ => Says key value s
  | obj _ ms => ∃ m ∈ ms, Piece.decode m.1.pieces = some key.toList ∧ m.2.Spells (.str value)
  | _ => False

variable {key value : String} {inner : Blanks} {s : Spelling} {v : Json}

theorem spells_str_ofString {t : String} :
    (str (Piece.ofString t)).Spells (.str value) ↔ t = value := by
  rw [Spells, Piece.decode_ofString, Option.some.injEq, String.toList_inj]

/-- A string has no other spellings than those that stand for it. -/
theorem spells_str_iff : s.Spells (.str value) ↔ s.value? = some (.str value) := by
  induction s using Spelling.induction with
  | str ps =>
    rw [Spells, value?, Option.map_eq_some_iff]
    constructor
    · intro h
      exact ⟨_, h, by rw [String.ofList_toList]⟩
    · rintro ⟨cs, h, ht⟩
      rw [← Json.str.inj ht, String.toList_ofList, h]
  | padded before s after ih => exact ih
  | _ => simp [Spells, value?, ofMembers]

theorem says_layMembers :
    (obj inner (layMembers depth ms)).Says key value ↔
      ∃ m ∈ ms, m.1 = key ∧ m.2.Spells (.str value) := by
  rw [Says]
  induction ms with
  | nil => simp [layMembers]
  | cons m ms ih =>
    simp only [layMembers, List.mem_cons, exists_eq_or_imp, ih, Piece.decode_ofString,
      Option.some.injEq, String.toList_inj, Spells]

/-- Elements say what they say on lines of their own. -/
theorem exists_says_layElements :
    (∃ e ∈ layElements depth es, e.Says key value) ↔ ∃ e ∈ es, e.Says key value := by
  induction es with
  | nil => simp [layElements]
  | cons e es ih => simp only [layElements, List.mem_cons, exists_eq_or_imp, ih, Says]

theorem map_within_layElements (n : Nat) :
    (layElements depth es).map (within n) = es.map (within n) := by
  induction es with
  | nil => rfl
  | cons e es ih =>
    rw [layElements, List.map_cons, List.map_cons, ih]
    rfl

theorem members?_layMembers (h : members? (layMembers depth ms) = some members) :
    ms.map (fun m => (m.1, m.2.value?)) = members.map fun m => (m.1, some m.2) := by
  induction ms generalizing members with
  | nil =>
    cases h
    rfl
  | cons m ms ih =>
    rw [layMembers, members?, Piece.decode_ofString, Option.bind_some, Option.bind_eq_some_iff] at h
    obtain ⟨v, hv, h⟩ := h
    obtain ⟨rest, hrest, rfl⟩ := Option.map_eq_some_iff.1 h
    rw [value?] at hv
    rw [List.map_cons, List.map_cons, ih hrest, hv, String.ofList_toList]

/-- What an object says can be read from its value, if no key is there twice. -/
theorem says_iff_of_value? (hkeys : (ms.map Prod.fst).Nodup)
    (hv : (obj inner (layMembers depth ms)).value? = some v) :
    (obj inner (layMembers depth ms)).Says key value ↔
      ∃ members, v = .obj members ∧ members.lookup key = some (.str value) := by
  obtain ⟨members, hmembers, rfl⟩ := Option.map_eq_some_iff.1 hv
  have hmap := members?_layMembers hmembers
  have hnodup : (members.map Prod.fst).Nodup := by
    have hfst := congrArg (List.map Prod.fst) hmap
    rw [List.map_map, List.map_map] at hfst
    exact (show members.map Prod.fst = ms.map Prod.fst from hfst.symm) ▸ hkeys
  have hmem : (∃ m ∈ ms, m.1 = key ∧ m.2.value? = some (.str value)) ↔
      (key, .str value) ∈ members := by
    calc (∃ m ∈ ms, m.1 = key ∧ m.2.value? = some (.str value))
      _ ↔ (key, some (.str value)) ∈ ms.map fun m => (m.1, m.2.value?) := by
        simp only [List.mem_map, Prod.mk.injEq]
      _ ↔ (key, some (.str value)) ∈ members.map fun m => (m.1, some m.2) := by rw [hmap]
      _ ↔ (key, .str value) ∈ members := by simp
  rw [says_layMembers]
  simp only [spells_str_iff]
  rw [hmem, ← lookup_eq_some_iff_mem hnodup, ← lookup_normalize hnodup]
  constructor
  · exact fun h => ⟨_, rfl, h⟩
  · rintro ⟨members', hobj, h⟩
    cases hobj
    exact h

end Spelling

end DockLint.Json

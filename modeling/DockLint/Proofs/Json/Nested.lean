import DockLint.Proofs.Json.Items

/-!
# Reading values

`value_text`: what a spelling writes out is read as the value of the spelling, if that nests at
most as deep as is allowed, up to blanks behind it. `readLeading_text`: an array at the front of a
text is read up to its bracket, whatever follows it.
-/

namespace DockLint.Json

open Outcome

variable {fuel n : Nat} {c : Char} {s t : List Char}

theorem value_skipSpace (fuel n : Nat) (s : List Char) :
    value fuel n (skipSpace s) = value fuel n s := by
  unfold value
  rw [skipSpace_skipSpace]

theorem member_skipSpace (read : Reader Json) (s : List Char) :
    member read (skipSpace s) = member read s := by
  unfold member
  rw [skipSpace_skipSpace]

theorem value_array (h : skipSpace s = '[' :: t) :
    (value fuel (n + 1) s).toOption =
      (items fuel (value fuel n) .array t).toOption.map fun r => (arr r.1, r.2) := by
  conv => lhs; unfold value
  rw [h]
  show (items fuel (value fuel n) .array t >>= fun r => pure (arr r.1, r.2)).toOption = _
  cases items fuel (value fuel n) .array t <;> rfl

theorem value_object (h : skipSpace s = '\x7b' :: t) :
    (value fuel (n + 1) s).toOption =
      (items fuel (member (value fuel n)) .object t).toOption.map
        fun r => (ofMembers r.1, r.2) := by
  conv => lhs; unfold value
  rw [h]
  show (items fuel (member (value fuel n)) .object t >>= fun r =>
    pure (ofMembers r.1, r.2)).toOption = _
  cases items fuel (member (value fuel n)) .object t <;> rfl

/-- No nesting is left. -/
theorem value_zero (h : skipSpace s = c :: t) (hc : c = '[' ∨ c = '\x7b') :
    (value fuel 0 s).toOption = none := by
  unfold value
  rcases hc with rfl | rfl <;> rw [h] <;> rfl

theorem value_scalar (h : skipSpace s = c :: t) (h1 : c ≠ '[') (h2 : c ≠ '\x7b') :
    value fuel n s = scalar (c :: t) := by
  unfold value
  rw [h]
  split <;> rename_i he
  · exact absurd (List.cons.inj he).1 h1
  · exact absurd (List.cons.inj he).1 h2
  · exact absurd (List.cons.inj he).1 h1
  · exact absurd (List.cons.inj he).1 h2
  · rfl

theorem ne_of_isDigit {d : Char} (h : c = '-' ∨ c.isDigit = true)
    (hd : d ≠ '-' ∧ d.isDigit = false) : c ≠ d := by
  rintro rfl
  rcases h with h | h
  · exact hd.1 h
  · exact absurd (hd.2.symm.trans h) (by decide)

theorem Numeral.text_eq_cons (m : Numeral) :
    ∃ c t, m.text = c :: t ∧ (c = '-' ∨ c.isDigit = true) := by
  rw [Numeral.text]
  cases m.literal.negative with
  | true => exact ⟨_, _, rfl, .inl rfl⟩
  | false =>
    obtain ⟨d, ds, hw⟩ := List.exists_cons_of_ne_nil m.whole.1.1
    rw [hw]
    exact ⟨d, _, rfl, .inr (m.whole.1.2 d (hw ▸ List.mem_cons_self))⟩

theorem scalar_number (h : c = '-' ∨ c.isDigit = true) : scalar (c :: t) = number (c :: t) := by
  have ne (d : Char) (hd : d ≠ '-' ∧ d.isDigit = false) : ¬ c = d := ne_of_isDigit h hd
  rw [scalar, if_neg (ne _ (by decide)), if_neg (ne _ (by decide)), if_neg (ne _ (by decide)),
    if_neg (ne _ (by decide)), if_pos h]

theorem isSpace_of_isDigit (h : c = '-' ∨ c.isDigit = true) : isSpace c = false := by
  have ne (d : Char) (hd : d ≠ '-' ∧ d.isDigit = false) : c ≠ d := ne_of_isDigit h hd
  simp [isSpace, ne ' ' (by decide), ne '\t' (by decide), ne '\n' (by decide), ne '\r' (by decide)]

theorem opens_text (s : Spelling) : Opens s.text := by
  induction s using Spelling.induction with
  | null => exact fun rest => ⟨_, _, rfl, by decide⟩
  | bool b => cases b <;> exact fun rest => ⟨_, _, rfl, by decide⟩
  | num m =>
    intro rest
    obtain ⟨c, t, ht, hc⟩ := m.text_eq_cons
    refine ⟨c, t ++ rest, ?_, ne_of_isDigit hc (by decide), ne_of_isDigit hc (by decide)⟩
    rw [Spelling.text, ht, List.cons_append, skipSpace_cons (isSpace_of_isDigit hc)]
  | str ps => exact fun rest => ⟨_, _, rfl, by decide⟩
  | arr inner es ih => exact fun rest => ⟨_, _, rfl, by decide⟩
  | obj inner ms ih => exact fun rest => ⟨_, _, rfl, by decide⟩
  | padded before s after ih =>
    intro rest
    rw [Spelling.text, List.append_assoc, List.append_assoc, skipSpace_blanks]
    exact ih _

theorem opens_memberText (m : Key × Spelling) : Opens (Spelling.memberText m) := by
  intro rest
  obtain ⟨⟨before, ps, after⟩, v⟩ := m
  show ∃ c s, skipSpace (((before.chars ++ _) ++ ':' :: v.text) ++ rest) = c :: s ∧ _
  rw [List.append_assoc, List.append_assoc, skipSpace_blanks]
  exact ⟨_, _, rfl, by decide⟩

theorem letters_append (v : Json) (ls rest : List Char) :
    letters v ls (ls ++ rest) = .ok (v, rest) := by
  induction ls with
  | nil => rfl
  | cons l ls ih => rw [List.cons_append, letters, if_pos rfl, ih]

/-! ### Values without parts -/

/-- A word is known by its first letter. -/
theorem readsAs_word {v : Json} {ls : List Char} (hspace : isSpace c = false)
    (hbracket : c ≠ '[' ∧ c ≠ '\x7b') (hscalar : ∀ s, scalar (c :: s) = letters v ls s) :
    ReadsAs (value fuel n) (c :: ls) (some v) := by
  refine ReadsAs.of_eq fun rest _ => ?_
  rw [List.cons_append, value_scalar (skipSpace_cons hspace _) hbracket.1 hbracket.2, hscalar,
    letters_append]
  rfl

theorem readsAs_num (m : Numeral) :
    ReadsAs (value fuel n) m.text (m.literal.value?.map num) := by
  refine ReadsAs.of_eq fun rest hrest => ?_
  obtain ⟨c, t, ht, hc⟩ := m.text_eq_cons
  have hread := number_text m hrest
  rw [ht] at hread
  rw [ht, List.cons_append, value_scalar (skipSpace_cons (isSpace_of_isDigit hc) _)
    (ne_of_isDigit hc (by decide)) (ne_of_isDigit hc (by decide)), scalar_number hc]
  refine hread.trans ?_
  rw [Option.map_map]
  rfl

theorem readsAs_str (ps : List Piece) :
    ReadsAs (value fuel n) (Piece.quoted ps)
      ((Piece.decode ps).map fun cs => str (String.ofList cs)) := by
  refine ReadsAs.of_eq fun rest _ => ?_
  have hread := string_text ps rest
  show (value fuel n ('\x22' :: ((ps.flatMap Piece.text ++ ['\x22']) ++ rest))).toOption = _
  rw [value_scalar (skipSpace_cons (by decide) _) (by decide) (by decide), List.append_assoc]
  show (string _ >>= fun _ => _).toOption = ((Piece.decode ps).map _).map _
  rw [toOption_bind, List.singleton_append, hread]
  cases Piece.decode ps <;> rfl

/-- Blanks behind a value are part of what follows it, and a number ends before them too. -/
theorem readsAs_padded (before after : Blanks) {r : Option Json}
    (h : ReadsAs (value fuel n) s r) :
    ReadsAs (value fuel n) (before.chars ++ (s ++ after.chars)) r := by
  intro rest hrest
  have hs := h (after.chars ++ rest) (endsNumber_blanks after hrest)
  rw [skipSpace_blanks] at hs
  rw [List.append_assoc, List.append_assoc, ← value_skipSpace, skipSpace_blanks, value_skipSpace]
  exact hs

/-! ### Arrays and objects -/

/-- A member is a key and a value. -/
theorem member_text (m : Key × Spelling)
    (h : ReadsAs (value fuel n) m.2.text (m.2.within n)) :
    ReadsAs (member (value fuel n)) (Spelling.memberText m) (Spelling.memberWithin n m) := by
  intro rest hrest
  obtain ⟨⟨before, ps, after⟩, v⟩ := m
  let u := after.chars ++ ':' :: (v.text ++ rest)
  have htext : Spelling.memberText (⟨before, ps, after⟩, v) ++ rest =
      before.chars ++ '\x22' :: (ps.flatMap Piece.text ++ '\x22' :: u) := by
    simp [Spelling.memberText, Key.text, Piece.quoted, u]
  have hquote : skipSpace ('\x22' :: (ps.flatMap Piece.text ++ '\x22' :: u)) = '\x22' :: _ :=
    skipSpace_cons (by decide) _
  have hcolon : skipSpace u = ':' :: (v.text ++ rest) := by
    rw [skipSpace_blanks, skipSpace_cons (by decide)]
  have hstring := string_text ps u
  rw [htext, member, skipSpace_blanks, hquote, Spelling.memberWithin]
  show (string _ >>= fun _ => _).toOption.map _ = ((Piece.decode ps).bind _).map _
  rw [toOption_bind, hstring]
  cases Piece.decode ps with
  | none => rfl
  | some key =>
    dsimp only [Option.map_some, Option.bind_some]
    rw [hcolon]
    let named := fun p : Json × List Char => ((String.ofList key, p.1), p.2)
    calc (value fuel n (v.text ++ rest) >>= fun r => pure (named r)).toOption.map _
      _ = ((value fuel n (v.text ++ rest)).toOption.map fun p => (p.1, skipSpace p.2)).map
          named := by
        cases value fuel n (v.text ++ rest) <;> rfl
      _ = ((v.within n).map (·, skipSpace rest)).map named := by rw [h rest hrest]
      _ = _ := by
        rw [Option.map_map, Option.map_map]
        rfl

section
variable {α : Type} {is : List (Item α)} {b : Brackets} {opening : Char} {inner : Blanks}
  {item : Nat → Reader α} {build : List α → Json} {e : Spelling}

/-- What is in brackets is read as its value if the items are. -/
theorem readsAs_of_bracketed (h : e.Bracketed opening inner is b.close build)
    (hb : b = .array ∨ b = .object) (hopening : opening = '[' ∨ opening = '\x7b')
    (hvalue : ∀ {n s t}, skipSpace s = opening :: t → (value fuel (n + 1) s).toOption =
      (items fuel (item n) b t).toOption.map fun r => (build r.1, r.2))
    (hitem : ∀ n s, item n (skipSpace s) = item n s) (hopens : ∀ i ∈ is, Opens i.text)
    (hread : ∀ n, ∀ i ∈ is, ReadsAs (item n) i.text (i.within n)) (hfuel : e.text.length ≤ fuel)
    (n : Nat) : ReadsAs (value fuel n) e.text (e.within n) := by
  refine ReadsAs.of_eq fun rest _ => ?_
  have hspace : isSpace opening = false := by
    rcases hopening with rfl | rfl <;> decide
  have htext : skipSpace (e.text ++ rest) =
      opening :: (inner.chars ++ (joined (is.map Item.text) ++ b.close :: rest)) := by
    rw [h.text_eq, List.cons_append, skipSpace_cons hspace]
    simp
  -- Without nesting left the text is refused, as the spelling has no value within 0.
  cases n with
  | zero =>
    rw [value_zero htext hopening, h.within_zero]
    rfl
  | succ n =>
    have hcount := Nat.le_trans h.length_le hfuel
    rw [hvalue htext, items_joined hb (hitem n) inner is (hread n) hopens fuel hcount,
      h.within_succ, Option.map_map, Option.map_map]
    rfl

end

/-- What a spelling writes out is read as its value, if it nests at most so deep. -/
theorem value_text (s : Spelling) (fuel n : Nat) (hfuel : s.text.length ≤ fuel) :
    ReadsAs (value fuel n) s.text (s.within n) := by
  induction s using Spelling.induction generalizing n with
  | null => exact readsAs_word (by decide) (by decide) fun _ => rfl
  | bool b =>
    cases b with
    | true => exact readsAs_word (by decide) (by decide) fun _ => rfl
    | false => exact readsAs_word (by decide) (by decide) fun _ => rfl
  | num m => exact readsAs_num m
  | str ps => exact readsAs_str ps
  | arr inner es ih =>
    have harr := Spelling.bracketed_arr inner es
    have hread (n : Nat) (e : Spelling) (he : e ∈ es) :
        ReadsAs (value fuel n) e.text (e.within n) :=
      ih e he n (Nat.le_trans (harr.length_text_le (List.mem_map_of_mem he)) hfuel)
    exact readsAs_of_bracketed harr (.inl rfl) (.inl rfl) value_array (value_skipSpace fuel)
      (List.forall_mem_map.2 fun e _ => opens_text e)
      (fun n => List.forall_mem_map.2 (hread n)) hfuel n
  | obj inner ms ih =>
    have hobj := Spelling.bracketed_obj inner ms
    have hread (n : Nat) (m : Key × Spelling) (hm : m ∈ ms) :
        ReadsAs (member (value fuel n)) (Spelling.memberText m) ((Spelling.member m).within n) := by
      have hle := Nat.le_trans (hobj.length_text_le (List.mem_map_of_mem hm)) hfuel
      rw [Spelling.within_member]
      exact member_text m (ih m hm n (Nat.le_trans (Spelling.length_text_le_member m) hle))
    exact readsAs_of_bracketed hobj (.inr rfl) (.inr rfl) value_object
      (fun n => member_skipSpace (value fuel n))
      (List.forall_mem_map.2 fun m _ => opens_memberText m)
      (fun n => List.forall_mem_map.2 (hread n)) hfuel n
  | padded before s after ih =>
    rw [Spelling.text, List.length_append, List.length_append] at hfuel
    exact readsAs_padded before after (ih n (by omega))

/-! ### The array at the front of a text -/

theorem leadingArray_array (h : skipSpace s = '[' :: t) :
    leadingArray fuel s = items fuel (value fuel (maxNesting - 1)) .array t := by
  rw [leadingArray, h]
  rfl

/-- An array at the front of a text is read up to its closing bracket, whatever follows it. -/
theorem readLeading_text (f : Frame) (es : List Spelling) :
    (readLeading (f.text es)).toOption =
      (together (es.map (Spelling.within (maxNesting - 1)))).map (·, f.rest) := by
  have hskip : skipSpace (f.text es) = '[' :: _ :=
    (skipSpace_blanks f.before _).trans (skipSpace_cons (by decide) _)
  have htexts := (Spelling.itemized_elements es).texts_eq
  have hlen : (f.text es).length = f.before.chars.length +
      (f.inner.chars.length + ((joined (Spelling.texts es)).length + (f.rest.length + 1)) + 1) := by
    simp [Frame.text]
  rw [htexts] at hlen
  have hcount := Item.length_le (es.map Spelling.element)
  rw [readLeading, toOption_mapError, leadingArray_array hskip, htexts,
    ← Spelling.map_within_element]
  refine items_joined (.inl rfl) (value_skipSpace _ _) f.inner _
    (List.forall_mem_map.2 fun e he => value_text e _ _ ?_)
    (List.forall_mem_map.2 fun e _ => opens_text e) _ ?_ f.rest
  · have hle : e.text.length ≤ (joined ((es.map Spelling.element).map Item.text)).length :=
      Item.length_text_le (i := e.element) (List.mem_map_of_mem he)
    omega
  · omega

/-- Nothing but an array is read. -/
theorem skipSpace_of_readLeading {r : List Json × List Char} (h : readLeading s = .ok r) :
    ∃ t, skipSpace s = '[' :: t := by
  rw [← toOption_eq_some_iff, readLeading, toOption_mapError, toOption_eq_some_iff,
    leadingArray] at h
  split at h
  · exact ⟨_, ‹_›⟩
  · cases h
  · obtain ⟨_, -, h⟩ := bind_eq_ok_iff.1 h
    cases h

end DockLint.Json

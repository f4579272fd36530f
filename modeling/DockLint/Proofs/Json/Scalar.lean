import DockLint.Proofs.Json.Spelling
import DockLint.Proofs.Outcome

/-!
# Reading strings and numbers

The readers of strings and numbers on what a spelling writes out: `string_text` and
`number_text` say that they yield what the pieces or the numeral stand for, if that is anything,
and leave all that follows.
-/

namespace DockLint.Json

open Outcome

/-! ### Strings -/

/-- Goes on in a string as a step says. -/
def proceed (acc rest : List Char) : Step → Except Stop (List Char × List Char)
  | .go place => stringFrom place acc rest
  | .emit d => stringFrom .plain (d :: acc) rest
  | .close => .ok (acc.reverse, rest)
  | .refuse stop => .error stop

theorem stringFrom_cons (place : Place) (acc : List Char) (c : Char) (rest : List Char) :
    stringFrom place acc (c :: rest) = proceed acc rest (stringStep c rest place) := by
  rw [stringFrom]
  cases stringStep c rest place <;> rfl

theorem hexValue?_char (d : HexDigit) : hexValue? d.char = some d.value := by
  obtain ⟨v, b⟩ := d
  revert v b
  decide

theorem unescape?_letter (e : Shorthand) : unescape? e.letter = some e.char := by
  cases e <;> rfl

theorem letter_ne_u (e : Shorthand) : e.letter ≠ 'u' := by
  cases e <;> decide

theorem stringFrom_digits (digits : List Char) (high : Option Nat) (u : CodeUnit)
    (acc rest : List Char) :
    stringFrom (.unit digits 4 0 high) acc (u.chars ++ rest) =
      proceed acc rest (unitStep u.value rest high) := by
  simp [CodeUnit.chars, CodeUnit.value, stringFrom_cons, stringStep, hexValue?_char, proceed]

theorem stringFrom_escape (place : Place) (acc rest : List Char) (h : place = .plain) :
    stringFrom place acc ('\\' :: rest) = stringFrom .escape acc rest := by
  subst h
  rw [stringFrom_cons]
  rfl

theorem stringFrom_plain {c : Char} (h : c ≠ '\x22' ∧ c ≠ '\\' ∧ 0x20 ≤ c.toNat)
    (acc rest : List Char) :
    stringFrom .plain acc (c :: rest) = stringFrom .plain (c :: acc) rest := by
  rw [stringFrom_cons, stringStep, if_neg h.1, if_neg h.2.1, if_neg (Nat.not_lt.2 h.2.2)]
  rfl

theorem stringFrom_short (e : Shorthand) (acc rest : List Char) :
    stringFrom .plain acc ('\\' :: e.letter :: rest) = stringFrom .plain (e.char :: acc) rest := by
  rw [stringFrom_escape _ _ _ rfl, stringFrom_cons, stringStep, if_neg (letter_ne_u e),
    unescape?_letter]
  rfl

theorem stringFrom_unit (u : CodeUnit) (acc rest : List Char) :
    stringFrom .plain acc ((Piece.unit u).text ++ rest) =
      proceed acc rest (unitStep u.value rest none) := by
  show stringFrom .plain acc ('\\' :: 'u' :: (u.chars ++ rest)) = _
  rw [stringFrom_escape _ _ _ rfl, stringFrom_cons]
  exact stringFrom_digits _ _ _ _ _

theorem stringFrom_pair_unit (high : Nat) (v : CodeUnit) (acc rest : List Char) :
    stringFrom (.pair high) acc ((Piece.unit v).text ++ rest) =
      proceed acc rest (unitStep v.value rest (some high)) := by
  show stringFrom (.pair high) acc ('\\' :: 'u' :: (v.chars ++ rest)) = _
  rw [stringFrom_cons]
  show stringFrom (.pairUnit high) acc ('u' :: (v.chars ++ rest)) = _
  rw [stringFrom_cons]
  exact stringFrom_digits _ _ _ _ _

/-- A leading surrogate with nothing but a code unit behind it. -/
theorem stringFrom_pair_eq_none (high : Nat) (acc rest : List Char) {ps : List Piece}
    (h : ∀ v qs, ps ≠ .unit v :: qs) :
    (stringFrom (.pair high) acc (ps.flatMap Piece.text ++ '\x22' :: rest)).toOption = none := by
  cases ps with
  | nil => rfl
  | cons p ps =>
    cases p with
    | plain c hc =>
      show (stringFrom (.pair high) acc (c :: _)).toOption = none
      rw [stringFrom_cons, stringStep, if_neg hc.2.1]
      rfl
    | short e =>
      show (stringFrom (.pair high) acc ('\\' :: e.letter :: _)).toOption = none
      rw [stringFrom_cons]
      show (stringFrom (.pairUnit high) acc (e.letter :: _)).toOption = none
      rw [stringFrom_cons, stringStep, if_neg (letter_ne_u e)]
      rfl
    | unit v => exact absurd rfl (h v ps)

/-- The induction follows `decode`, which takes one piece or a pair of surrogates at a time. -/
theorem stringFrom_text (ps : List Piece) (acc rest : List Char) :
    (stringFrom .plain acc (ps.flatMap Piece.text ++ '\x22' :: rest)).toOption =
      (Piece.decode ps).map fun cs => (acc.reverse ++ cs, rest) := by
  fun_induction Piece.decode ps generalizing acc with
  | case1 =>
    show some (acc.reverse, rest) = _
    simp
  | case2 c h ps ih =>
    rw [List.flatMap_cons, List.append_assoc, Piece.text, List.singleton_append,
      stringFrom_plain h, ih, Option.map_map]
    simp [Function.comp_def]
  | case3 e ps ih =>
    rw [List.flatMap_cons, List.append_assoc, Piece.text, List.cons_append,
      List.singleton_append, stringFrom_short, ih, Option.map_map]
    simp [Function.comp_def]
  | case4 u hu v ps hv ih =>
    simp only [List.flatMap_cons, List.append_assoc]
    rw [stringFrom_unit, unitStep, if_pos hu, proceed, stringFrom_pair_unit, unitStep, if_pos hv]
    show (stringFrom .plain (Piece.combine u.value v.value :: acc) _).toOption = _
    rw [ih, Option.map_map]
    simp [Function.comp_def]
  | case5 u hu v ps hv =>
    simp only [List.flatMap_cons, List.append_assoc]
    rw [stringFrom_unit, unitStep, if_pos hu, proceed, stringFrom_pair_unit, unitStep, if_neg hv]
    rfl
  | case6 u ps hu hps =>
    rw [List.flatMap_cons, List.append_assoc, stringFrom_unit, unitStep, if_pos hu, proceed,
      stringFrom_pair_eq_none _ _ _ hps]
    rfl
  | case7 u ps hu hu' =>
    rw [List.flatMap_cons, List.append_assoc, stringFrom_unit, unitStep, if_neg hu, if_pos hu']
    rfl
  | case8 u ps hu hu' ih =>
    rw [List.flatMap_cons, List.append_assoc, stringFrom_unit, unitStep, if_neg hu, if_neg hu',
      proceed, ih, Option.map_map]
    simp [Function.comp_def]

/-- A string is read up to its quote. -/
theorem string_text (ps : List Piece) (rest : List Char) :
    (string (ps.flatMap Piece.text ++ '\x22' :: rest)).toOption =
      (Piece.decode ps).map (·, rest) := by
  rw [string, stringFrom_text]
  rfl

/-! ### Numbers -/

/-- What follows a number literal cannot be part of it. -/
def EndsNumber (rest : List Char) : Prop :=
  ∀ c ∈ rest.head?, c.isDigit = false ∧ c ≠ '.' ∧ c ≠ 'e' ∧ c ≠ 'E'

namespace Literal

theorem digits_append {ds rest : List Char} (hds : IsDigits ds)
    (h : ∀ c ∈ rest.head?, c.isDigit = false) : digits (ds ++ rest) = .ok (ds, rest) := by
  obtain ⟨hne, hall⟩ := hds
  have htake : rest.takeWhile Char.isDigit = [] := by
    cases rest with
    | nil => rfl
    | cons c rest => simp [h c rfl]
  have hdrop : rest.dropWhile Char.isDigit = rest := by
    cases rest with
    | nil => rfl
    | cons c rest => simp [h c rfl]
  cases ds with
  | nil => exact absurd rfl hne
  | cons d ds =>
    have hd : d.isDigit = true := hall d List.mem_cons_self
    rw [List.cons_append, digits, if_pos hd, ← List.cons_append,
      List.takeWhile_append_of_pos hall, List.dropWhile_append_of_pos hall, htake, hdrop,
      List.append_nil]

theorem readWhole_append {ds rest : List Char} (hds : IsWhole ds)
    (h : ∀ c ∈ rest.head?, c.isDigit = false) : readWhole (ds ++ rest) = .ok (ds, rest) := by
  by_cases hz : ds.head? = some '0'
  · rw [hds.2 hz]
    cases rest with
    | nil => rfl
    | cons c rest => simp [readWhole, h c rfl]
  · rw [← digits_append hds.1 h]
    cases ds with
    | nil => exact absurd rfl hds.1.1
    | cons d ds =>
      rw [List.cons_append, readWhole]
      intro _ he
      exact hz (congrArg some (List.cons.inj he).1)

theorem readFraction_append (n : Numeral) {rest : List Char}
    (h : ∀ c ∈ rest.head?, c.isDigit = false ∧ c ≠ '.') :
    readFraction (n.fractionText ++ rest) = .ok (n.literal.fraction, rest) := by
  cases hf : n.literal.fraction with
  | none =>
    rw [Numeral.fractionText, hf]
    cases rest with
    | nil => rfl
    | cons c rest =>
      show readFraction (c :: rest) = _
      rw [readFraction]
      intro _ he
      exact (h c rfl).2 (List.cons.inj he).1
  | some ds =>
    rw [Numeral.fractionText, hf]
    show (digits (ds ++ rest) >>= fun _ => _) = _
    rw [digits_append (n.fraction ds hf) fun c hc => (h c hc).1]
    rfl

theorem exponentDigits_append (down : Bool) {ds rest : List Char} (hds : IsDigits ds)
    (h : ∀ c ∈ rest.head?, c.isDigit = false) :
    exponentDigits down (ds ++ rest) = .ok (some (down, ds), rest) := by
  rw [exponentDigits, digits_append hds h]
  rfl

theorem readExponent_append (n : Numeral) {rest : List Char} (h : EndsNumber rest) :
    readExponent (n.exponentText ++ rest) = .ok (n.literal.exponent, rest) := by
  cases he : n.literal.exponent with
  | none =>
    rw [Numeral.exponentText, he]
    cases rest with
    | nil => rfl
    | cons c rest =>
      obtain ⟨-, -, h1, h2⟩ := h c rfl
      simp [readExponent, h1, h2]
  | some e =>
    obtain ⟨down, ds⟩ := e
    have hds : IsDigits ds := n.exponent _ he
    have hread := exponentDigits_append down hds fun c hc => (h c hc).1
    have hmark : (if n.capital then 'E' else 'e') = 'e' ∨
        (if n.capital then 'E' else 'e') = 'E' := by
      cases n.capital <;> simp
    rw [Numeral.exponentText, he]
    simp only [List.cons_append, readExponent, hmark, ↓reduceIte, Numeral.sign]
    cases down with
    | true => exact hread
    | false =>
      cases n.plus with
      | true => exact hread
      | false =>
        obtain ⟨d, ds, rfl⟩ := List.exists_cons_of_ne_nil hds.1
        have hd := hds.2 d List.mem_cons_self
        simp only [Bool.false_eq_true, ↓reduceIte, List.nil_append, List.cons_append]
        split
        · rename_i hc
          rw [(List.cons.inj hc).1] at hd
          exact absurd hd (by decide)
        · rename_i hc
          rw [(List.cons.inj hc).1] at hd
          exact absurd hd (by decide)
        · exact hread

theorem head?_exponentText (n : Numeral) {rest : List Char} (h : EndsNumber rest) :
    ∀ c ∈ (n.exponentText ++ rest).head?, c.isDigit = false ∧ c ≠ '.' := by
  intro c hc
  rw [Numeral.exponentText] at hc
  split at hc
  · exact ⟨(h c hc).1, (h c hc).2.1⟩
  · obtain rfl := Option.some.inj hc
    cases n.capital <;> decide

theorem head?_fractionText (n : Numeral) {rest : List Char} (h : EndsNumber rest) :
    ∀ c ∈ (n.fractionText ++ (n.exponentText ++ rest)).head?, c.isDigit = false := by
  intro c hc
  rw [Numeral.fractionText] at hc
  split at hc
  · exact (head?_exponentText n h c hc).1
  · obtain rfl := Option.some.inj hc
    decide

theorem unsigned_append (n : Numeral) {rest : List Char} (h : EndsNumber rest) :
    unsigned n.literal.negative
      (n.literal.whole ++ (n.fractionText ++ (n.exponentText ++ rest))) =
        .ok (n.literal, rest) := by
  rw [unsigned, readWhole_append n.whole (head?_fractionText n h)]
  show (readFraction (n.fractionText ++ (n.exponentText ++ rest)) >>= fun _ => _) = _
  rw [readFraction_append n (head?_exponentText n h)]
  show (readExponent (n.exponentText ++ rest) >>= fun _ => _) = _
  rw [readExponent_append n h]
  rfl

/-- A literal is read to its end. -/
theorem read_text (n : Numeral) {rest : List Char} (h : EndsNumber rest) :
    read (n.text ++ rest) = .ok (n.literal, rest) := by
  have hread := unsigned_append n h
  simp only [Numeral.text, List.append_assoc]
  cases hneg : n.literal.negative with
  | true =>
    rw [hneg] at hread
    exact hread
  | false =>
    rw [hneg] at hread
    obtain ⟨d, ds, hw⟩ := List.exists_cons_of_ne_nil n.whole.1.1
    have hd : d.isDigit = true := n.whole.1.2 d (hw ▸ List.mem_cons_self)
    rw [← hread, hw]
    show read (d :: _) = _
    rw [read]
    · rfl
    · intro _ hc
      rw [(List.cons.inj hc).1] at hd
      exact absurd hd (by decide)

end Literal

/-- A numeral has the number of its literal. -/
theorem number_text (n : Numeral) {rest : List Char} (h : EndsNumber rest) :
    (number (n.text ++ rest)).toOption = n.literal.value?.map fun v => (num v, rest) := by
  rw [number, toOption_bind, Literal.read_text n h, toOption_ok, Option.bind_some]
  dsimp only
  cases n.literal.value? <;> rfl

end DockLint.Json

import DockLint.Proofs.Json.Scalar
import DockLint.Proofs.Json.Tree

/-!
# Reading items between commas

What arrays and objects have in common. `items_joined`: if each item is read to its end
(`ReadsAs`), a list of them is read up to its closing bracket, by induction on the items. What
follows an item is a comma or the closing bracket, so no number goes on there (`EndsNumber`).
-/

namespace DockLint.Json

open Outcome

/-! ### Blanks -/

theorem skipSpace_cons {c : Char} (h : isSpace c = false) (s : List Char) :
    skipSpace (c :: s) = c :: s := by
  rw [skipSpace, List.dropWhile_cons_of_neg (by simp [h])]

theorem skipSpace_blanks (b : Blanks) (s : List Char) :
    skipSpace (b.chars ++ s) = skipSpace s := by
  refine List.dropWhile_append_of_pos fun c hc => ?_
  rcases b.isSpace c hc with rfl | rfl | rfl | rfl <;> rfl

theorem skipSpace_skipSpace (s : List Char) : skipSpace (skipSpace s) = skipSpace s := by
  induction s with
  | nil => rfl
  | cons c s ih =>
    cases hc : isSpace c with
    | false => rw [skipSpace_cons hc, skipSpace_cons hc]
    | true =>
      have hs : skipSpace (c :: s) = skipSpace s := List.dropWhile_cons_of_pos hc
      rw [hs, ih]

theorem endsNumber_blanks (b : Blanks) {rest : List Char} (h : EndsNumber rest) :
    EndsNumber (b.chars ++ rest) := by
  obtain ⟨cs, hcs⟩ := b
  cases cs with
  | nil => exact h
  | cons c cs =>
    intro d hd
    obtain rfl := Option.some.inj hd
    rcases hcs c List.mem_cons_self with rfl | rfl | rfl | rfl <;> decide

/-! ### Items between commas -/

section
variable {α : Type} {item : Reader α} {b : Brackets} {t rest : List Char} {a : α} {n : Nat}

/-- A text is read to its end as something or refused, unless what follows could be part of a
number. Blanks behind it may be taken along. -/
def ReadsAs (item : Reader α) (t : List Char) (r : Option α) : Prop :=
  ∀ rest, EndsNumber rest → (item (t ++ rest)).toOption.map (fun p => (p.1, skipSpace p.2)) =
    r.map (·, skipSpace rest)

theorem ReadsAs.some (h : ReadsAs item t (some a)) (hr : EndsNumber rest) :
    ∃ s, item (t ++ rest) = .ok (a, s) ∧ skipSpace s = skipSpace rest := by
  obtain ⟨⟨x, s⟩, hs, he⟩ := Option.map_eq_some_iff.1 (h rest hr)
  obtain ⟨rfl, hrest⟩ := Prod.mk.inj he
  exact ⟨s, toOption_eq_some_iff.1 hs, hrest⟩

theorem ReadsAs.none (h : ReadsAs item t none) (hr : EndsNumber rest) :
    ∃ e, item (t ++ rest) = .error e :=
  toOption_eq_none_iff.1 (Option.map_eq_none_iff.1 (h rest hr))

theorem ReadsAs.of_eq {r : Option α}
    (h : ∀ rest, EndsNumber rest → (item (t ++ rest)).toOption = r.map (·, rest)) :
    ReadsAs item t r := by
  intro rest hr
  rw [h rest hr, Option.map_map]
  rfl

/-- A text whose first character other than blanks is no closing bracket. -/
def Opens (t : List Char) : Prop :=
  ∀ rest, ∃ c s, skipSpace (t ++ rest) = c :: s ∧ c ≠ ']' ∧ c ≠ '\x7d'

variable (hb : b = .array ∨ b = .object)
include hb

theorem skipSpace_close (rest : List Char) : skipSpace (b.close :: rest) = b.close :: rest := by
  rcases hb with rfl | rfl <;> rfl

theorem endsNumber_close (rest : List Char) : EndsNumber (b.close :: rest) := by
  intro c hc
  obtain rfl := Option.some.inj hc
  rcases hb with rfl | rfl <;> decide

theorem Opens.ne_close (h : Opens t) (rest : List Char) :
    ∃ c s, skipSpace (t ++ rest) = c :: s ∧ c ≠ b.close := by
  obtain ⟨c, s, hs, h1, h2⟩ := h rest
  refine ⟨c, s, hs, ?_⟩
  rcases hb with rfl | rfl
  · exact h1
  · exact h2

theorem skipSpace_joined (i : Item α) (is : List (Item α)) (hi : Opens i.text)
    (rest : List Char) :
    ∃ c s, skipSpace (joined ((i :: is).map Item.text) ++ b.close :: rest) = c :: s ∧
      c ≠ b.close := by
  cases is with
  | nil => exact hi.ne_close hb _
  | cons j is =>
    obtain ⟨c, s, hs, hc⟩ :=
      hi.ne_close hb (',' :: (joined ((j :: is).map Item.text) ++ b.close :: rest))
    refine ⟨c, s, hs ▸ congrArg skipSpace ?_, hc⟩
    show (i.text ++ ',' :: joined ((j :: is).map Item.text)) ++ _ = _
    rw [List.append_assoc, List.cons_append]

theorem next_close {s : List Char} (h : skipSpace s = b.close :: rest) :
    next b s = .ok (.done rest) := by
  rw [next, h]
  rcases hb with rfl | rfl <;> rfl

omit hb in
theorem next_comma {s u : List Char} {c : Char} (h : skipSpace s = ',' :: t)
    (ht : skipSpace t = c :: u) (hc : c ≠ b.close) : next b s = .ok (.more (c :: u)) := by
  simp only [next, h, ht, ↓reduceIte]
  exact if_neg hc

omit hb in
theorem itemsFrom_skipSpace (hitem : ∀ s, item (skipSpace s) = item s) (acc : List α) (fuel : Nat)
    (s : List Char) : (itemsFrom item b acc fuel (skipSpace s)).toOption =
      (itemsFrom item b acc fuel s).toOption := by
  cases fuel with
  | zero => rfl
  | succ fuel => rw [itemsFrom, itemsFrom, hitem]

omit hb in
theorem itemsFrom_error {s : List Char} {e : Stop} (h : item s = .error e) (acc : List α)
    (fuel : Nat) : (itemsFrom item b acc (fuel + 1) s).toOption = none := by
  rw [itemsFrom, h]
  rfl

/-- The last item. -/
theorem itemsFrom_last {r : Option α} (h : ReadsAs item t r) (acc : List α) (fuel : Nat)
    (rest : List Char) :
    (itemsFrom item b acc (fuel + 1) (t ++ b.close :: rest)).toOption =
      r.map fun a => ((a :: acc).reverse, rest) := by
  have hclose := endsNumber_close hb rest
  cases r with
  | none =>
    obtain ⟨e, he⟩ := h.none hclose
    exact itemsFrom_error he acc fuel
  | some a =>
    obtain ⟨s, hs, hrest⟩ := h.some hclose
    rw [skipSpace_close hb] at hrest
    rw [itemsFrom, hs]
    show (next b s >>= fun _ => _).toOption = _
    rw [next_close hb hrest]
    rfl

omit hb in
/-- An item with another one behind it. -/
theorem itemsFrom_more {r : Option α} {u : List Char} (hitem : ∀ s, item (skipSpace s) = item s)
    (h : ReadsAs item t r) (hu : ∃ c v, skipSpace u = c :: v ∧ c ≠ b.close) (acc : List α)
    (fuel : Nat) :
    (itemsFrom item b acc (fuel + 1) (t ++ ',' :: u)).toOption =
      r.bind fun a => (itemsFrom item b (a :: acc) fuel u).toOption := by
  have hcomma : EndsNumber (',' :: u) := by
    intro c hc
    obtain rfl := Option.some.inj hc
    decide
  cases r with
  | none =>
    obtain ⟨e, he⟩ := h.none hcomma
    exact itemsFrom_error he acc fuel
  | some a =>
    obtain ⟨s, hs, hrest⟩ := h.some hcomma
    obtain ⟨c, v, hv, hc⟩ := hu
    rw [skipSpace_cons (by decide)] at hrest
    rw [itemsFrom, hs]
    show (next b s >>= fun _ => _).toOption = _
    rw [next_comma hrest hv hc, ← hv]
    exact itemsFrom_skipSpace hitem _ _ _

/-- The induction is on the items behind the first one. -/
theorem itemsFrom_joined (hitem : ∀ s, item (skipSpace s) = item s) (i : Item α)
    (is : List (Item α)) (hread : ∀ j ∈ i :: is, ReadsAs item j.text (j.within n))
    (hopens : ∀ j ∈ is, Opens j.text) (fuel : Nat) (hfuel : is.length ≤ fuel) (acc : List α)
    (rest : List Char) :
    (itemsFrom item b acc (fuel + 1)
        (joined ((i :: is).map Item.text) ++ b.close :: rest)).toOption =
      (together ((i :: is).map (Item.within n))).map fun xs => (acc.reverse ++ xs, rest) := by
  obtain ⟨hi, his⟩ := List.forall_mem_cons.1 hread
  induction is generalizing i acc fuel with
  | nil =>
    refine (itemsFrom_last hb hi acc fuel rest).trans ?_
    rw [List.map_singleton, together]
    cases i.within n <;> simp [together]
  | cons j is ih =>
    obtain ⟨hj, hopens⟩ := List.forall_mem_cons.1 hopens
    -- The next item takes the fuel that is left, and this one is in front of what it yields.
    obtain ⟨fuel, rfl⟩ := Nat.exists_eq_add_one_of_ne_zero (Nat.ne_zero_of_lt hfuel)
    let u := joined ((j :: is).map Item.text) ++ b.close :: rest
    have htext : joined ((i :: j :: is).map Item.text) ++ b.close :: rest = i.text ++ ',' :: u := by
      show (i.text ++ ',' :: joined ((j :: is).map Item.text)) ++ _ = _
      rw [List.append_assoc, List.cons_append]
    rw [htext, itemsFrom_more hitem hi (skipSpace_joined hb j is hj rest)]
    show _ = (together (i.within n :: (j :: is).map (Item.within n))).map _
    rw [together]
    cases i.within n with
    | none => rfl
    | some a =>
      obtain ⟨hjread, hisread⟩ := List.forall_mem_cons.1 his
      have hrec := ih j his hopens fuel (Nat.le_of_succ_le_succ hfuel) (a :: acc) hjread hisread
      rw [Option.bind_some, hrec, Option.bind_some, Option.map_map]
      simp [Function.comp_def]

/-- Items are read up to the closing bracket as the values that nest at most so deep, and as nothing
if one of them is. -/
theorem items_joined (hitem : ∀ s, item (skipSpace s) = item s) (inner : Blanks)
    (is : List (Item α)) (hread : ∀ i ∈ is, ReadsAs item i.text (i.within n))
    (hopens : ∀ i ∈ is, Opens i.text) (fuel : Nat) (hfuel : is.length ≤ fuel)
    (rest : List Char) :
    (items fuel item b
        (inner.chars ++ (joined (is.map Item.text) ++ b.close :: rest))).toOption =
      (together (is.map (Item.within n))).map (·, rest) := by
  rw [items, skipSpace_blanks]
  cases is with
  | nil =>
    rw [List.map_nil, joined, List.nil_append, skipSpace_close hb]
    simp [together]
  | cons i is =>
    obtain ⟨c, s, hs, hc⟩ := skipSpace_joined hb i is (hopens i List.mem_cons_self) rest
    obtain ⟨fuel, rfl⟩ := Nat.exists_eq_add_one_of_ne_zero (Nat.ne_zero_of_lt hfuel)
    rw [hs]
    show (if c = b.close then .ok ([], s) else itemsFrom item b [] _ (c :: s)).toOption = _
    rw [if_neg hc, ← hs, itemsFrom_skipSpace hitem]
    exact itemsFrom_joined hb hitem i is hread (fun j h => hopens j (List.mem_cons_of_mem _ h))
      fuel (Nat.le_of_succ_le_succ hfuel) [] rest

end

end DockLint.Json

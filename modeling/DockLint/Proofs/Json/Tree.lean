import DockLint.Proofs.Json.Spelling

/-!
# Spellings as trees

Induction on spellings, and what arrays and objects are made of. The elements of an array and the
members of an object are items between commas, each with a text, a nesting and a value (`Itemized`).
Those of the items make up those of the array or object (`Bracketed`), so a value that nests at most
so deep is made of such values (`Bracketed.within_succ`).
-/

namespace DockLint.Json

/-- All of the values, if there is one each. -/
def together {α : Type} : List (Option α) → Option (List α)
  | [] => some []
  | o :: os => o.bind fun a => (together os).map (a :: ·)

theorem together_eq_some_iff {α : Type} {os : List (Option α)} {xs : List α} :
    together os = some xs ↔ os = xs.map some := by
  induction os generalizing xs with
  | nil => cases xs <;> simp [together]
  | cons o os ih =>
    cases o with
    | none => cases xs <;> simp [together]
    | some a =>
      have h : together (some a :: os) = (together os).map (a :: ·) := rfl
      rw [h, Option.map_eq_some_iff]
      constructor
      · rintro ⟨ys, hys, rfl⟩
        rw [ih.1 hys]
        rfl
      · intro he
        cases xs with
        | nil => cases he
        | cons x xs =>
          obtain ⟨hx, hos⟩ := List.cons.inj he
          exact ⟨xs, ih.2 hos, by rw [Option.some.inj hx]⟩

theorem exists_together_eq_some {α : Type} {os : List (Option α)} (h : ∀ o ∈ os, o.isSome) :
    ∃ xs, together os = some xs := by
  induction os with
  | nil => exact ⟨[], rfl⟩
  | cons o os ih =>
    obtain ⟨ho, hos⟩ := List.forall_mem_cons.1 h
    obtain ⟨a, rfl⟩ := Option.isSome_iff_exists.1 ho
    obtain ⟨xs, hxs⟩ := ih hos
    exact ⟨a :: xs, by rw [together, hxs]; rfl⟩

theorem together_eq_none {α : Type} {os : List (Option α)} (h : none ∈ os) :
    together os = none := by
  cases ht : together os with
  | none => rfl
  | some xs =>
    rw [together_eq_some_iff.1 ht] at h
    obtain ⟨x, -, hx⟩ := List.mem_map.1 h
    cases hx

theorem isSome_together_iff {α : Type} {os : List (Option α)} :
    (together os).isSome ↔ ∀ o ∈ os, o.isSome := by
  constructor
  · intro h o ho
    rw [← Option.ne_none_iff_isSome]
    rintro rfl
    rw [together_eq_none ho] at h
    cases h
  · intro h
    obtain ⟨xs, hxs⟩ := exists_together_eq_some h
    rw [hxs]
    rfl

theorem length_le_joined_of_mem {t : List Char} {ts : List (List Char)} (h : t ∈ ts) :
    t.length ≤ (joined ts).length := by
  induction ts with
  | nil => cases h
  | cons t' ts ih =>
    cases ts with
    | nil =>
      obtain rfl := List.mem_singleton.1 h
      exact Nat.le_refl _
    | cons t'' ts =>
      have hlen : (joined (t' :: t'' :: ts)).length =
          t'.length + ((joined (t'' :: ts)).length + 1) := List.length_append
      rcases List.mem_cons.1 h with rfl | h
      · omega
      · have := ih h
        omega

theorem length_le_joined (ts : List (List Char)) : ts.length ≤ (joined ts).length + 1 := by
  induction ts with
  | nil => exact Nat.zero_le _
  | cons t ts ih =>
    cases ts with
    | nil => exact Nat.le_add_left _ _
    | cons t' ts =>
      have hlen : (joined (t :: t' :: ts)).length =
          t.length + ((joined (t' :: ts)).length + 1) := List.length_append
      rw [List.length_cons]
      omega

/-! ### Items between commas -/

/-- What stands between commas. -/
structure Item (α : Type) where
  text : List Char
  depth : Nat
  value? : Option α

namespace Item

variable {α : Type} {i : Item α} {is : List (Item α)}

/-- The value of an item that nests at most so deep. -/
def within (n : Nat) (i : Item α) : Option α :=
  if i.depth ≤ n then i.value? else none

/-- The nesting of the deepest. -/
def deepest : List (Item α) → Nat
  | [] => 0
  | i :: is => max i.depth (deepest is)

theorem length_text_le (h : i ∈ is) : i.text.length ≤ (joined (is.map text)).length :=
  length_le_joined_of_mem (List.mem_map_of_mem h)

/-- Each item takes at least the comma before it. -/
theorem length_le (is : List (Item α)) : is.length ≤ (joined (is.map text)).length + 1 := by
  simpa using length_le_joined (is.map text)

theorem together_within (n : Nat) (is : List (Item α)) :
    together (is.map (within n)) =
      if deepest is ≤ n then together (is.map value?) else none := by
  induction is with
  | nil => rfl
  | cons i is ih =>
    have hmax : deepest (i :: is) ≤ n ↔ i.depth ≤ n ∧ deepest is ≤ n := Nat.max_le
    rw [List.map_cons, List.map_cons, together, together, ih, within]
    by_cases h1 : i.depth ≤ n <;> by_cases h2 : deepest is ≤ n <;> simp [hmax, h1, h2]

end Item

/-- Texts, a nesting and values that are those of the items. -/
structure Itemized {α : Type} (is : List (Item α)) (texts : List (List Char)) (depth : Nat)
    (values? : Option (List α)) : Prop where
  texts_eq : texts = is.map Item.text
  depth_eq : depth = Item.deepest is
  values_eq : values? = together (is.map Item.value?)

namespace Itemized

variable {α : Type} {is : List (Item α)} {ts : List (List Char)} {d : Nat} {vs? : Option (List α)}

theorem nil : Itemized ([] : List (Item α)) [] 0 (some []) :=
  ⟨rfl, rfl, rfl⟩

theorem cons (i : Item α) (h : Itemized is ts d vs?) :
    Itemized (i :: is) (i.text :: ts) (max i.depth d)
      (i.value?.bind fun v => vs?.map (v :: ·)) where
  texts_eq := by rw [h.texts_eq, List.map_cons]
  depth_eq := by rw [h.depth_eq, Item.deepest]
  values_eq := by rw [h.values_eq, List.map_cons, together]

end Itemized

namespace Spelling

/-- A spelling is made of spellings. -/
@[elab_as_elim]
theorem induction {P : Spelling → Prop} (null : P .null) (bool : ∀ b, P (.bool b))
    (num : ∀ n, P (.num n)) (str : ∀ ps, P (.str ps))
    (arr : ∀ inner es, (∀ e ∈ es, P e) → P (.arr inner es))
    (obj : ∀ inner ms, (∀ m ∈ ms, P m.2) → P (.obj inner ms))
    (padded : ∀ before s after, P s → P (.padded before s after)) (s : Spelling) : P s :=
  @Spelling.rec P (fun es => ∀ e ∈ es, P e) (fun ms => ∀ m ∈ ms, P m.2) (fun m => P m.2)
    null bool num str arr obj padded
    (List.forall_mem_nil _) (fun _ _ he hes => List.forall_mem_cons.2 ⟨he, hes⟩)
    (List.forall_mem_nil _) (fun _ _ hm hms => List.forall_mem_cons.2 ⟨hm, hms⟩)
    (fun _ _ h => h) s

/-! ### Elements and members -/

/-- The value of a spelling that nests at most so deep. -/
def within (n : Nat) (s : Spelling) : Option Json :=
  if s.depth ≤ n then s.value? else none

def memberText (m : Key × Spelling) : List Char :=
  m.1.text ++ ':' :: m.2.text

def memberWithin (n : Nat) (m : Key × Spelling) : Option (String × Json) :=
  (Piece.decode m.1.pieces).bind fun key => (m.2.within n).map (String.ofList key, ·)

def element (s : Spelling) : Item Json :=
  ⟨s.text, s.depth, s.value?⟩

def member (m : Key × Spelling) : Item (String × Json) :=
  ⟨memberText m, m.2.depth,
    (Piece.decode m.1.pieces).bind fun key => m.2.value?.map (String.ofList key, ·)⟩

theorem length_text_le_member (m : Key × Spelling) : m.2.text.length ≤ (member m).text.length := by
  rw [member, memberText, List.length_append, List.length_cons]
  omega

theorem within_member (n : Nat) (m : Key × Spelling) :
    (member m).within n = memberWithin n m := by
  rw [Item.within, memberWithin, within, member]
  by_cases h : m.2.depth ≤ n <;> simp [h]

theorem map_within_element (n : Nat) (es : List Spelling) :
    (es.map element).map (Item.within n) = es.map (within n) :=
  List.map_map

theorem map_within_member (n : Nat) (ms : List (Key × Spelling)) :
    (ms.map member).map (Item.within n) = ms.map (memberWithin n) := by
  rw [List.map_map]
  exact List.map_congr_left fun m _ => within_member n m

theorem itemized_elements (es : List Spelling) :
    Itemized (es.map element) (texts es) (depths es) (values? es) := by
  induction es with
  | nil => exact .nil
  | cons e es ih => exact ih.cons e.element

theorem itemized_members (ms : List (Key × Spelling)) :
    Itemized (ms.map member) (memberTexts ms) (memberDepths ms) (members? ms) := by
  induction ms with
  | nil => exact .nil
  | cons m ms ih =>
    have hvalues : members? (m :: ms) =
        (member m).value?.bind fun v => (members? ms).map (v :: ·) := by
      rw [members?, member, Option.bind_assoc]
      simp only [Option.bind_map, Function.comp_def]
    rw [hvalues]
    exact ih.cons (member m)

theorem texts_eq (es : List Spelling) : texts es = es.map text :=
  (itemized_elements es).texts_eq.trans List.map_map

theorem memberTexts_eq (ms : List (Key × Spelling)) : memberTexts ms = ms.map memberText :=
  (itemized_members ms).texts_eq.trans List.map_map

theorem together_within (n : Nat) (es : List Spelling) :
    together (es.map (within n)) = if depths es ≤ n then values? es else none := by
  have his := itemized_elements es
  rw [← map_within_element, Item.together_within, his.depth_eq, his.values_eq]

/-! ### Arrays and objects -/

/-- Items in brackets, and the value that is built of theirs. -/
structure Bracketed {α : Type} (s : Spelling) (opening : Char) (inner : Blanks)
    (is : List (Item α)) (closing : Char) (build : List α → Json) : Prop where
  text_eq : s.text =
    opening :: (inner.chars ++ (joined (is.map Item.text) ++ [closing]))
  depth_eq : s.depth = Item.deepest is + 1
  value_eq : s.value? = (together (is.map Item.value?)).map build

theorem bracketed_arr (inner : Blanks) (es : List Spelling) :
    (arr inner es).Bracketed '[' inner (es.map element) ']' Json.arr where
  text_eq := by rw [text, (itemized_elements es).texts_eq]
  depth_eq := by rw [depth, (itemized_elements es).depth_eq]
  value_eq := by rw [value?, (itemized_elements es).values_eq]

theorem bracketed_obj (inner : Blanks) (ms : List (Key × Spelling)) :
    (obj inner ms).Bracketed '\x7b' inner (ms.map member) '\x7d' ofMembers where
  text_eq := by rw [text, (itemized_members ms).texts_eq]
  depth_eq := by rw [depth, (itemized_members ms).depth_eq]
  value_eq := by rw [value?, (itemized_members ms).values_eq]

namespace Bracketed

variable {α : Type} {s : Spelling} {opening closing : Char} {inner : Blanks} {is : List (Item α)}
  {build : List α → Json}

theorem length_text_le (h : s.Bracketed opening inner is closing build) {i : Item α} (hi : i ∈ is) :
    i.text.length ≤ s.text.length := by
  have hle := Item.length_text_le hi
  rw [h.text_eq, List.length_cons, List.length_append, List.length_append]
  omega

theorem length_le (h : s.Bracketed opening inner is closing build) : is.length ≤ s.text.length := by
  have hle := Item.length_le is
  rw [h.text_eq, List.length_cons, List.length_append, List.length_append]
  omega

theorem within_zero (h : s.Bracketed opening inner is closing build) : s.within 0 = none := by
  rw [within, h.depth_eq]
  exact if_neg (Nat.not_succ_le_zero _)

theorem within_succ (h : s.Bracketed opening inner is closing build) (n : Nat) :
    s.within (n + 1) = (together (is.map (Item.within n))).map build := by
  rw [Item.together_within, within, h.depth_eq, h.value_eq]
  by_cases hn : Item.deepest is ≤ n
  · rw [if_pos hn, if_pos (Nat.succ_le_succ hn)]
  · rw [if_neg hn, if_neg fun h' => hn (Nat.le_of_succ_le_succ h')]
    rfl

end Bracketed

theorem within_obj (inner : Blanks) (ms : List (Key × Spelling)) (n : Nat) :
    (obj inner ms).within (n + 1) = (together (ms.map (memberWithin n))).map ofMembers := by
  rw [(bracketed_obj inner ms).within_succ, map_within_member]

end Spelling

end DockLint.Json

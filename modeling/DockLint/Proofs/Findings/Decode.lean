import DockLint.Issue
import DockLint.Proofs.Outcome

/-!
# What decodes as an issue

`Issue.decode_eq_ok_iff`: a value is an issue if it has the three fields, each of its type and
within its bounds.
-/

namespace DockLint.Issue

open Outcome

/-- The values in the places of line, message and level. -/
def fields? : Json → Option (Json × Json × Json)
  | .obj ms => do
    let line ← ms.lookup Field.line.name
    let message ← ms.lookup Field.message.name
    let level ← ms.lookup Field.level.name
    return (line, message, level)
  | .arr [line, message, level] => some (line, message, level)
  | _ => none

variable {v : Json} {ms : List (String × Json)} {xs : List Json} {i : Issue}

theorem lineOf_eq_ok_iff {n : Nat} :
    lineOf v = .ok n ↔ v = .num (.natural n) ∧ 1 ≤ n ∧ n ≤ maxLine := by
  unfold lineOf
  split
  · split <;> rename_i h
    · simp only [Except.ok.injEq, Json.num.injEq, Json.Number.natural.injEq]
      exact ⟨fun e => ⟨e, e ▸ h⟩, fun e => e.1⟩
    · simp only [reduceCtorEq, Json.num.injEq, Json.Number.natural.injEq, false_iff]
      rintro ⟨rfl, hn⟩
      exact h hn
  · simp
  · rename_i h _
    simp only [reduceCtorEq, false_iff, not_and]
    rintro rfl
    exact absurd rfl (h n)

theorem textOf_eq_ok_iff {s : String} : textOf v = .ok s ↔ v = .str s := by
  unfold textOf
  split
  · simp
  · rename_i h
    simp only [reduceCtorEq, false_iff]
    rintro rfl
    exact h s rfl

/-- A field that is required is there and has its type. -/
theorem require_field?_eq_ok_iff {α : Type} {read : Json → Except Malformed α} {o : Option Json}
    {f : Field} {a : α} :
    (∃ x, field? read o = .ok x ∧ require f x = .ok a) ↔ ∃ v, o = some v ∧ read v = .ok a := by
  cases o with
  | none => simp [field?, require]
  | some v =>
    simp only [field?, map_eq_ok_iff, Option.some.injEq, exists_eq_left']
    constructor
    · rintro ⟨_, ⟨b, hb, rfl⟩, h⟩
      obtain rfl := Except.ok.inj h
      exact hb
    · exact fun h => ⟨some a, ⟨a, h, rfl⟩, rfl⟩

theorem ofMembers_eq_ok_iff :
    ofMembers ms = .ok i ↔
      (∃ v, ms.lookup Field.line.name = some v ∧ lineOf v = .ok i.line) ∧
      (∃ v, ms.lookup Field.message.name = some v ∧ textOf v = .ok i.message) ∧
      (∃ v, ms.lookup Field.level.name = some v ∧ textOf v = .ok i.level) := by
  simp only [ofMembers, bind_eq_ok_iff]
  constructor
  · rintro ⟨t, ht, l, hl, m, hm, line, hline, message, hmessage, level, hlevel, h⟩
    obtain rfl := Except.ok.inj h
    exact ⟨require_field?_eq_ok_iff.1 ⟨l, hl, hline⟩,
      require_field?_eq_ok_iff.1 ⟨m, hm, hmessage⟩, require_field?_eq_ok_iff.1 ⟨t, ht, hlevel⟩⟩
  · rintro ⟨h1, h2, h3⟩
    obtain ⟨l, hl, hline⟩ := (require_field?_eq_ok_iff (f := .line)).2 h1
    obtain ⟨m, hm, hmessage⟩ := (require_field?_eq_ok_iff (f := .message)).2 h2
    obtain ⟨t, ht, hlevel⟩ := (require_field?_eq_ok_iff (f := .level)).2 h3
    exact ⟨t, ht, l, hl, m, hm, _, hline, _, hmessage, _, hlevel, rfl⟩

theorem ofElements_eq_ok_iff :
    ofElements xs = .ok i ↔
      ∃ x y z, xs = [x, y, z] ∧ lineOf x = .ok i.line ∧ textOf y = .ok i.message ∧
        textOf z = .ok i.level := by
  constructor
  · intro h
    match xs, h with
    | [x], h =>
      obtain ⟨_, -, h⟩ := bind_eq_ok_iff.1 h
      cases h
    | [x, y], h =>
      obtain ⟨_, -, h⟩ := bind_eq_ok_iff.1 h
      obtain ⟨_, -, h⟩ := bind_eq_ok_iff.1 h
      cases h
    | x :: y :: z :: rest, h =>
      obtain ⟨line, hx, h⟩ := bind_eq_ok_iff.1 h
      obtain ⟨message, hy, h⟩ := bind_eq_ok_iff.1 h
      obtain ⟨level, hz, h⟩ := bind_eq_ok_iff.1 h
      cases rest with
      | nil =>
        obtain rfl := Except.ok.inj h
        exact ⟨x, y, z, rfl, hx, hy, hz⟩
      | cons w rest => cases h
  · rintro ⟨x, y, z, rfl, hx, hy, hz⟩
    rw [ofElements, hx]
    show (textOf y >>= fun _ => _) = _
    rw [hy]
    show (textOf z >>= fun _ => _) = _
    rw [hz]
    rfl

theorem fields?_obj_eq_some_iff {l m t : Json} :
    fields? (.obj ms) = some (l, m, t) ↔ ms.lookup Field.line.name = some l ∧
      ms.lookup Field.message.name = some m ∧ ms.lookup Field.level.name = some t := by
  simp only [fields?, bind, pure, Option.bind_eq_some_iff, Option.some.injEq, Prod.mk.injEq]
  constructor
  · rintro ⟨_, hl, _, hm, _, ht, rfl, rfl, rfl⟩
    exact ⟨hl, hm, ht⟩
  · rintro ⟨hl, hm, ht⟩
    exact ⟨l, hl, m, hm, t, ht, rfl, rfl, rfl⟩

theorem fields?_arr_eq_some_iff {l m t : Json} :
    fields? (.arr xs) = some (l, m, t) ↔ xs = [l, m, t] := by
  match xs with
  | [] | [_] | [_, _] | _ :: _ :: _ :: _ :: _ => simp [fields?]
  | [_, _, _] => simp [fields?]

/-- What an issue is. -/
theorem decode_eq_ok_iff :
    decode v = .ok i ↔
      fields? v = some (.num (.natural i.line), .str i.message, .str i.level) ∧
        1 ≤ i.line ∧ i.line ≤ maxLine ∧ i.message ≠ "" := by
  have nonempty (x : Except Malformed Issue) :
      (x >>= fun j => if j.message = "" then .error .emptyMessage else .ok j) = .ok i ↔
        x = .ok i ∧ i.message ≠ "" := by
    rw [bind_eq_ok_iff]
    constructor
    · rintro ⟨j, rfl, h⟩
      split at h
      · cases h
      · obtain rfl := Except.ok.inj h
        exact ⟨rfl, ‹_›⟩
    · rintro ⟨rfl, h⟩
      exact ⟨i, rfl, ite_eq_right_iff.2 fun e => absurd e h⟩
  cases v with
  | obj ms =>
    refine (nonempty _).trans ?_
    simp only [ofMembers_eq_ok_iff, lineOf_eq_ok_iff, textOf_eq_ok_iff, exists_eq_right,
      fields?_obj_eq_some_iff]
    constructor
    · rintro ⟨⟨⟨_, hl, rfl, h1, h2⟩, hm, ht⟩, hne⟩
      exact ⟨⟨hl, hm, ht⟩, h1, h2, hne⟩
    · rintro ⟨⟨hl, hm, ht⟩, h1, h2, hne⟩
      exact ⟨⟨⟨_, hl, rfl, h1, h2⟩, hm, ht⟩, hne⟩
  | arr xs =>
    refine (nonempty _).trans ?_
    simp only [ofElements_eq_ok_iff, lineOf_eq_ok_iff, textOf_eq_ok_iff, fields?_arr_eq_some_iff]
    constructor
    · rintro ⟨⟨_, _, _, rfl, ⟨rfl, h1, h2⟩, rfl, rfl⟩, hne⟩
      exact ⟨rfl, h1, h2, hne⟩
    · rintro ⟨rfl, h1, h2, hne⟩
      exact ⟨⟨_, _, _, rfl, ⟨rfl, h1, h2⟩, rfl, rfl⟩, hne⟩
  | _ => exact ⟨nofun, nofun⟩

end DockLint.Issue

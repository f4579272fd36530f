import DockLint.Proofs.Findings.Records
import DockLint.Proofs.Json.Canonical

/-!
# Findings and how they are written

`ofOutput_of_spells`: however a list of values is written as an array and whatever follows it, the
records are those of the values. An element is judged by its fields, which do not depend on the
order of its members (`decode_canonical`).
-/

namespace DockLint

open Outcome

namespace Issue

variable {v : Json} {i : Issue}

theorem fields?_canonical (h : ∀ ms, v = .obj ms → (ms.map Prod.fst).Nodup) :
    fields? v.canonical = (fields? v).map fun f =>
      (f.1.canonical, f.2.1.canonical, f.2.2.canonical) := by
  cases v with
  | obj ms =>
    have hms : ((Json.canonicalMembers ms).map Prod.fst).Nodup := by
      rw [Json.map_fst_canonicalMembers]
      exact h ms rfl
    simp only [Json.canonical, Json.ofMembers, fields?, Json.lookup_normalize hms,
      Json.lookup_canonicalMembers]
    cases ms.lookup Field.line.name with
    | none => rfl
    | some line =>
      cases ms.lookup Field.message.name with
      | none => rfl
      | some message => cases ms.lookup Field.level.name <;> rfl
  | arr xs =>
    rcases xs with _ | ⟨_, _ | ⟨_, _ | ⟨_, _ | ⟨_, _⟩⟩⟩⟩ <;> rfl
  | _ => rfl

/-- The order of members does not count. -/
theorem decode_canonical (h : ∀ ms, v = .obj ms → (ms.map Prod.fst).Nodup) :
    decode v.canonical = .ok i ↔ decode v = .ok i := by
  rw [decode_eq_ok_iff, decode_eq_ok_iff, fields?_canonical h]
  refine and_congr_left fun _ => ?_
  rw [Option.map_eq_some_iff]
  constructor
  · rintro ⟨⟨line, message, level⟩, hf, he⟩
    obtain ⟨h1, h23⟩ := Prod.mk.inj he
    obtain ⟨h2, h3⟩ := Prod.mk.inj h23
    have hline : line = _ := Json.canonical_eq_num_iff.1 h1
    have hmessage : message = _ := Json.canonical_eq_str_iff.1 h2
    have hlevel : level = _ := Json.canonical_eq_str_iff.1 h3
    rw [hf, hline, hmessage, hlevel]
  · exact fun hf => ⟨_, hf, rfl⟩

end Issue

namespace Findings

open Json (CodeUnit Frame Numeral Piece Spelling)

theorem value_ofElement_canonical (table : LineTable) {v : Json}
    (h : ∀ ms, v = .obj ms → (ms.map Prod.fst).Nodup) :
    (ofElement table v.canonical).value.toOption = (ofElement table v).value.toOption := by
  ext d
  simp only [toOption_eq_some_iff, value_ofElement_eq_ok_iff, Issue.decode_canonical h]

theorem filterMap_canonicals (table : LineTable) {es : List Spelling} {vs : List Json}
    (h : Spelling.SpellsAll es vs) :
    ((Json.canonicals vs).filterMap fun v => (ofElement table v).value.toOption) =
      vs.filterMap fun v => (ofElement table v).value.toOption := by
  induction es generalizing vs with
  | nil =>
    cases vs with
    | nil => rfl
    | cons v vs => exact h.elim
  | cons e es ih =>
    cases vs with
    | nil => exact h.elim
    | cons v vs =>
      have hv := value_ofElement_canonical table (v := v) fun ms hms =>
        Spelling.nodup_of_spells (hms ▸ h.1)
      rw [Json.canonicals, List.filterMap_cons, List.filterMap_cons, hv, ih h.2]

/-- Values written as an array are all that counts of the output: each that is an issue has its
record, in the order of the array, and no warning is logged. -/
theorem ofOutput_of_spells (table : LineTable) (f : Frame) (es : List Spelling)
    (vs : List Json) (hs : Spelling.SpellsAll es vs)
    (hdepth : (Json.arr vs).depth ≤ 127) :
    (ofOutput table (f.output es)).value =
        vs.filterMap (fun v => (ofElement table v).value.toOption) ∧
      ∀ note ∈ (ofOutput table (f.output es)).notes,
        note.level ≠ .warn := by
  obtain ⟨hv, hdepths⟩ := Spelling.matches_elements (fun e _ v => Spelling.matches_of_spells) hs
  have hd : Spelling.depths es ≤ Json.maxNesting - 1 := by
    rw [hdepths]
    exact Nat.le_of_succ_le_succ hdepth
  have hread : Json.readLeading (f.output es).toList = .ok (Json.canonicals vs, f.rest) := by
    rw [Frame.output, String.toList_ofList, ← toOption_eq_some_iff, Json.readLeading_text,
      Spelling.together_within, if_pos hd, hv]
    rfl
  obtain ⟨hvalue, hnotes⟩ := ofOutput_of_readLeading table hread
  refine ⟨?_, fun note hnote => ?_⟩
  · rw [hvalue, value_ofElements, filterMap_canonicals table hs]
  · rw [hnotes note hnote]
    decide

theorem exists_ofOutput_of_spells : ∃ (f : Frame) (es : List Spelling) (vs : List Json),
    f.output es = "\n[\x7b\x22message\x22:\x22\\ud83d\\ude00\x22,\x22line\x22:1," ++
        "\x22level\x22:\x22error\x22\x7d, null] [" ∧
      Spelling.SpellsAll es vs ∧ (Json.arr vs).depth ≤ 127 ∧
      (ofOutput (.ofText "FROM a") (f.output es)).value =
        [⟨1, "😀", .error, some ⟨0, 6, by decide⟩⟩] := by
  let high : CodeUnit := ⟨⟨13, false⟩, ⟨8, false⟩, ⟨3, false⟩, ⟨13, false⟩⟩
  let low : CodeUnit := ⟨⟨13, false⟩, ⟨14, false⟩, ⟨0, false⟩, ⟨0, false⟩⟩
  let one : Numeral := ⟨⟨false, ['1'], none, none⟩, false, false, by decide, nofun, nofun⟩
  let issue : Spelling := .obj .none [
    (⟨.none, Piece.plains "message".toList (by decide), .none⟩, .str [.unit high, .unit low]),
    (⟨.none, Piece.plains "line".toList (by decide), .none⟩, .num one),
    (⟨.none, Piece.plains "level".toList (by decide), .none⟩,
      .str (Piece.plains "error".toList (by decide)))]
  let value : Json :=
    .obj [("message", .str "😀"), ("line", .num (.natural 1)), ("level", .str "error")]
  let f : Frame := ⟨⟨['\n'], by simp⟩, .none, [' ', '[']⟩
  have hpair : Piece.decode [.unit high, .unit low] = some "😀".toList := by decide
  have herror : Piece.decode (Piece.plains "error".toList (by decide)) = some "error".toList := by
    decide
  have hs : Spelling.SpellsAll [issue, .padded ⟨[' '], by simp⟩ .null .none] [value, .null] :=
    ⟨⟨⟨by decide, hpair, by decide, ⟨by decide, by decide⟩, by decide, herror, trivial⟩,
      by decide⟩, trivial, trivial⟩
  have hdepth : (Json.arr [value, .null]).depth ≤ 127 := by decide
  have hvalue := (ofOutput_of_spells (.ofText "FROM a") f _ _ hs hdepth).1
  exact ⟨f, _, _, by decide, hs, hdepth, hvalue.trans (by decide)⟩

end Findings

end DockLint

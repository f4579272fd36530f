import Mathlib.Algebra.Group.Nat.Defs
import DockLint.Command
import DockLint.Proofs.Diagnostic

/-!
# Reading a report back

What is printed of a diagnostic spells it (`spells_spelling`), if its numbers are words, and a
spelling is read as the value it spells (`Json.read_of_spells`). So a report is read as the array of
its diagnostics (`read_document`), and no other diagnostics are printed like them
(`report_read_back`).
-/

namespace DockLint

open Json (Numeral Piece Spelling)
open Json.Spelling (layElements layMembers)

/-! ### Reading what is spelled -/

namespace Json

/-- A spelling is read to its end. -/
theorem read_text {s : Spelling} {v : Json} (h : s.within maxNesting = some v) :
    read s.text = .ok v := by
  have hreads := value_text s (s.text.length + 1) maxNesting (Nat.le_succ _)
  rw [h] at hreads
  obtain ⟨rest, hvalue, hrest⟩ := hreads.some (show EndsNumber [] from nofun)
  rw [List.append_nil] at hvalue
  have hend : skipSpace rest = [] := hrest
  rw [read, hvalue]
  dsimp only
  rw [hend]

theorem read_of_spells {s : Spelling} {v : Json} (h : s.Spells v) (hdepth : v.depth ≤ maxNesting) :
    read s.text = .ok v.canonical := by
  obtain ⟨hvalue, hd⟩ := Spelling.matches_of_spells h
  exact read_text (by rw [Spelling.within, if_pos (hd ▸ hdepth), hvalue])

namespace Spelling

variable {α : Type} {depth : Nat} {f : α → Spelling} {g : α → Json} {as : List α}

theorem spells_num_ofNat {n : Nat} (h : n < 2 ^ 64) :
    (num (.ofNat n)).Spells (.num (.natural n)) :=
  ⟨h, rfl⟩

theorem spellsAll_layElements (h : ∀ a ∈ as, (f a).Spells (g a)) :
    SpellsAll (layElements depth (as.map f)) (as.map g) := by
  induction as with
  | nil => trivial
  | cons a as ih =>
    obtain ⟨ha, has⟩ := List.forall_mem_cons.1 h
    exact ⟨ha, ih has⟩

end Spelling

theorem canonicals_map {α : Type} (g : α → Json) (as : List α) :
    canonicals (as.map g) = as.map fun a => (g a).canonical := by
  induction as with
  | nil => rfl
  | cons a as ih => rw [List.map_cons, canonicals, ih, List.map_cons]

theorem depths_map_le {α : Type} {g : α → Json} {as : List α} {n : Nat}
    (h : ∀ a ∈ as, (g a).depth ≤ n) : depths (as.map g) ≤ n := by
  induction as with
  | nil => exact Nat.zero_le n
  | cons a as ih =>
    obtain ⟨ha, has⟩ := List.forall_mem_cons.1 h
    exact Nat.max_le.2 ⟨ha, ih has⟩

end Json

namespace Diagnostic

/-! ### One diagnostic -/

/-- The numbers of a diagnostic are words. -/
structure Sized (d : Diagnostic) : Prop where
  line : d.line < 2 ^ 64
  stop : ∀ s, d.span = some s → s.stop < 2 ^ 64

def decodedSpan : Option Span → Json
  | none => .null
  | some s => .obj [("end", .num (.natural s.stop)), ("start", .num (.natural s.start))]

/-- What is read of a diagnostic, its members in the order of their names. -/
def decoded (d : Diagnostic) : Json :=
  .obj [("line", .num (.natural d.line)), ("message", .str d.message),
    ("range", decodedSpan d.span), ("severity", .str d.severity.name)]

variable {d d' : Diagnostic} {ds ds' : List Diagnostic}

theorem spells_spanSpelling {s : Option Span} (h : ∀ t, s = some t → t.stop < 2 ^ 64) :
    (spanSpelling s).Spells (spanJson s) := by
  cases s with
  | none => trivial
  | some t =>
    have hstop := h t rfl
    have hstart := Nat.lt_trans t.start_lt_stop hstop
    exact ⟨⟨Piece.decode_ofString _, Spelling.spells_num_ofNat hstart, Piece.decode_ofString _,
      Spelling.spells_num_ofNat hstop, trivial⟩, by simp⟩

theorem spells_spelling (h : d.Sized) : d.spelling.Spells d.toJson := by
  have hline := Spelling.spells_num_ofNat h.line
  have hmessage : (Spelling.str (Piece.ofString d.message)).Spells (.str d.message) :=
    Spelling.spells_str_ofString.2 rfl
  have hseverity : (Spelling.str (Piece.ofString d.severity.name)).Spells (.str d.severity.name) :=
    Spelling.spells_str_ofString.2 rfl
  have hspan := spells_spanSpelling h.stop
  exact ⟨⟨Piece.decode_ofString _, hline, Piece.decode_ofString _, hmessage,
    Piece.decode_ofString _, hseverity, Piece.decode_ofString _, hspan, trivial⟩, by simp⟩

theorem canonical_spanJson (s : Option Span) : (spanJson s).canonical = decodedSpan s := by
  cases s with
  | none => rfl
  | some s =>
    have hlt : "end" < "start" := by decide
    simp only [spanJson, decodedSpan, Json.canonical, Json.canonicalMembers, Json.ofMembers,
      Json.normalize, Json.insertMember, List.foldl_cons, List.foldl_nil, hlt, if_true,
      String.reduceEq, if_false]

theorem canonical_toJson (d : Diagnostic) : d.toJson.canonical = d.decoded := by
  have hmessage : ¬ "message" < "line" := by decide
  have hseverity : ¬ "severity" < "line" ∧ ¬ "severity" < "message" := by decide
  have hrange : ¬ "range" < "line" ∧ ¬ "range" < "message" ∧ "range" < "severity" := by decide
  simp only [toJson, decoded, Json.canonical, Json.canonicalMembers, Json.ofMembers, Json.normalize,
    Json.insertMember, List.foldl_cons, List.foldl_nil, canonical_spanJson, hmessage, hseverity,
    hrange, String.reduceEq, if_true, if_false]

theorem depth_toJson_le (d : Diagnostic) : d.toJson.depth ≤ 2 := by
  have hspan : (spanJson d.span).depth ≤ 1 := by
    cases d.span with
    | none => exact Nat.zero_le 1
    | some s => exact Nat.le_refl 1
  simp only [toJson, Json.depth, Json.memberDepths]
  omega

theorem decodedSpan_inj {s s' : Option Span} (h : decodedSpan s = decodedSpan s') : s = s' := by
  cases s with
  | none =>
    cases s' with
    | none => rfl
    | some s' => cases h
  | some s =>
    cases s' with
    | none => cases h
    | some s' =>
      simp only [decodedSpan, Json.obj.injEq, List.cons.injEq, Prod.mk.injEq, Json.num.injEq,
        Json.Number.natural.injEq, true_and, and_true] at h
      rw [Span.ext h.2 h.1]

theorem decoded_inj (h : d.decoded = d'.decoded) : d = d' := by
  obtain ⟨line, message, severity, span⟩ := d
  obtain ⟨line', message', severity', span'⟩ := d'
  simp only [decoded, Json.obj.injEq, List.cons.injEq, Prod.mk.injEq, Json.num.injEq,
    Json.Number.natural.injEq, Json.str.injEq, Severity.name_inj, true_and, and_true] at h
  obtain ⟨rfl, rfl, hspan, rfl⟩ := h
  rw [decodedSpan_inj hspan]

/-! ### A report -/

/-- What is printed of diagnostics, apart from the line feed behind it. -/
def document (ds : List Diagnostic) : String :=
  Json.pretty (.arr (ds.map toJson))

theorem toList_document (ds : List Diagnostic) :
    (document ds).toList = (Spelling.arr .none (reportElements ds)).text := by
  rw [document, Json.pretty, String.toList_ofList, text_reportElements]

theorem exists_brackets (ds : List Diagnostic) :
    ∃ inner, (document ds).toList = '[' :: (inner ++ [']']) :=
  ⟨_, toList_document ds⟩

theorem read_document (h : ∀ d ∈ ds, d.Sized) :
    Json.read (document ds).toList = .ok (.arr (ds.map decoded)) := by
  have hspells : (Spelling.arr .none (reportElements ds)).Spells (.arr (ds.map toJson)) :=
    Spelling.spellsAll_layElements fun d hd => spells_spelling (h d hd)
  have hdepth : (Json.arr (ds.map toJson)).depth ≤ Json.maxNesting :=
    Nat.succ_le_succ (Nat.le_trans (Json.depths_map_le fun d _ => depth_toJson_le d) (by decide))
  rw [toList_document, Json.read_of_spells hspells hdepth, Json.canonical, Json.canonicals_map]
  exact congrArg (fun f => Except.ok (Json.arr (ds.map f))) (funext canonical_toJson)

theorem document_inj (h : ∀ d ∈ ds, d.Sized) (h' : ∀ d ∈ ds', d.Sized)
    (he : document ds = document ds') : ds = ds' := by
  have hread := read_document h
  rw [he, read_document h'] at hread
  exact (List.map_inj_right fun _ _ => decoded_inj).1 (Json.arr.inj (Except.ok.inj hread)).symm

/-- A report in JSON is one document and a line feed. It is read as an array with one object for
each diagnostic, in their order, and whoever reads it knows them. -/
theorem report_read_back (path : String) (exit : Option Int) (ds : List Diagnostic)
    (h : ∀ d ∈ ds, d.Sized) :
    ∃ document : String,
      (Command.lintAnswer path .json ⟨.completed exit, ds⟩).printed = document ++ "\n" ∧
      (∃ inner, document.toList = '[' :: (inner ++ [']'])) ∧
      Json.read document.toList = .ok (.arr (ds.map decoded)) ∧
      ∀ exit' ds', (∀ d ∈ ds', d.Sized) →
        (Command.lintAnswer path .json ⟨.completed exit', ds'⟩).printed = document ++ "\n" →
        ds' = ds := by
  refine ⟨document ds, rfl, exists_brackets ds, read_document h, fun exit' ds' h' he => ?_⟩
  exact document_inj h' h ((String.append_left_inj "\n").1 he)

/-- A message full of escapes, and a range that ends with the last word. -/
theorem exists_report_read_back : ∃ (ds : List Diagnostic) (document : String),
    (∀ d ∈ ds, d.Sized) ∧
    (Command.lintAnswer "Dockerfile" .json ⟨.completed (some 1), ds⟩).printed = document ++ "\n" ∧
    Json.read document.toList = .ok (.arr [
      .obj [("line", .num (.natural 2)), ("message", .str "\x22a\\b\x22\x01\n😀"), ("range", .null),
        ("severity", .str "error")],
      .obj [("line", .num (.natural 0)), ("message", .str ""),
        ("range", .obj [("end", .num (.natural (2 ^ 64 - 1))), ("start", .num (.natural 7))]),
        ("severity", .str "info")]]) := by
  let ds : List Diagnostic :=
    [⟨2, "\x22a\\b\x22\x01\n😀", .error, none⟩, ⟨0, "", .info, some ⟨7, 2 ^ 64 - 1, by decide⟩⟩]
  have hsized : ∀ d ∈ ds, d.Sized := by
    refine List.forall_mem_cons.2 ⟨⟨by decide, nofun⟩, List.forall_mem_singleton.2 ⟨by decide, ?_⟩⟩
    intro s hs
    obtain rfl := Option.some.inj hs
    decide
  obtain ⟨document, hprinted, -, hread, -⟩ := report_read_back "Dockerfile" (some 1) ds hsized
  exact ⟨ds, document, hsized, hprinted, hread⟩

end Diagnostic

end DockLint

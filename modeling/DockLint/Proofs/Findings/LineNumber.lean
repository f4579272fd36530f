import DockLint.Proofs.Findings.Element
import DockLint.Proofs.Findings.Output
import DockLint.Proofs.Json.Members
import DockLint.Proofs.Json.Printed
import DockLint.Proofs.Json.Rational

/-!
# The number of a line

Between the literal of a line in the output and the line of a record stand a word of 64 bits, a
double and a word of 32 bits. `line_of_literal`: none of them rounds the literal or lets it wrap
around. A literal of any length that is not itself the number of a line has no record.
-/

namespace DockLint

namespace Findings

open Issue (maxLine)
open Json (Blanks Frame Key Literal Numeral Piece Spelling maxNesting)
open Json.Spelling (memberWithin valuesOf)

/-! ### An element with its line left open -/

/-- An object with a line, a message and a level, each of them once, without the literal of the
line. -/
structure Outline where
  before : Blanks
  /-- Behind the opening bracket. -/
  inner : Blanks
  after : Blanks
  /-- The members before that of the line. -/
  front : List (Key × Spelling)
  key : Key
  beforeLine : Blanks
  afterLine : Blanks
  back : List (Key × Spelling)
  message : List Piece
  level : List Piece
  line_named : key.Names "line"
  line_once : valuesOf "line" (front ++ back) = []
  message_once : (valuesOf "message" (front ++ back)).map Spelling.pieces? = [some message]
  message_ne_nil : message ≠ []
  level_once : (valuesOf "level" (front ++ back)).map Spelling.pieces? = [some level]

namespace Outline

def members (o : Outline) (n : Numeral) : List (Key × Spelling) :=
  o.front ++ (o.key, .padded o.beforeLine (.num n) o.afterLine) :: o.back

/-- The object with this literal for its line. -/
def fill (o : Outline) (n : Numeral) : Spelling :=
  .padded o.before (.obj o.inner (o.members n)) o.after

variable {o : Outline} {n : Numeral} {vs : List (String × Json)}

/-- The object is nested in the array, and its members in both. -/
theorem within_fill (o : Outline) (n : Numeral) :
    (o.fill n).within (maxNesting - 1) =
      (Json.together ((o.members n).map (memberWithin (maxNesting - 2)))).map Json.ofMembers :=
  Spelling.within_obj o.inner (o.members n) (maxNesting - 2)

theorem valuesOf_line (o : Outline) (n : Numeral) :
    valuesOf "line" (o.members n) = [.padded o.beforeLine (.num n) o.afterLine] := by
  have hfront : valuesOf "line" o.front = [] ∧ valuesOf "line" o.back = [] := by
    have h := o.line_once
    rwa [valuesOf, List.filter_append, List.map_append, List.append_eq_nil_iff] at h
  rw [valuesOf, members, List.filter_append, List.filter_cons_of_pos (by simpa using o.line_named),
    List.map_append, List.map_cons]
  exact congrArg₂ (· ++ _ :: ·) hfront.1 hfront.2

/-- The literal has no part in the other members. -/
theorem valuesOf_other (o : Outline) (n : Numeral) {name : String} (h : name ≠ "line") :
    valuesOf name (o.members n) = valuesOf name (o.front ++ o.back) := by
  have hkey : ¬ o.key.Names name := fun hname =>
    h (String.toList_inj.1 (Option.some.inj (hname.symm.trans o.line_named)))
  rw [valuesOf, members, List.filter_append, List.filter_cons_of_neg (by simpa using hkey),
    ← List.filter_append, valuesOf]

section
variable (h : (o.members n).map (memberWithin (maxNesting - 2)) = vs.map some)
include h

theorem exists_lookup_line :
    ∃ w, n.literal.value? = some w ∧ (Json.normalize vs).lookup "line" = some (.num w) := by
  obtain ⟨v, hv, hlookup⟩ := Spelling.exists_lookup_of_valuesOf h (o.valuesOf_line n)
  obtain ⟨w, hw, rfl⟩ := Option.map_eq_some_iff.1 hv
  exact ⟨w, hw, hlookup⟩

theorem exists_lookup_text {name : String} (hname : name ≠ "line") {ps : List Piece}
    (hps : (valuesOf name (o.front ++ o.back)).map Spelling.pieces? = [some ps]) :
    ∃ cs, Piece.decode ps = some cs ∧
      (Json.normalize vs).lookup name = some (.str (String.ofList cs)) := by
  obtain ⟨s, hs, hpieces⟩ := List.map_eq_singleton_iff.1 hps
  obtain ⟨v, hv, hlookup⟩ :=
    Spelling.exists_lookup_of_valuesOf h ((o.valuesOf_other n hname).trans hs)
  rw [Spelling.within_eq_of_pieces? hpieces] at hv
  obtain ⟨cs, hcs, rfl⟩ := Option.map_eq_some_iff.1 hv
  exact ⟨cs, hcs, hlookup⟩

/-- Message and level are right, so the line alone decides whether there is an issue. -/
theorem exists_decode_iff {k : Nat} :
    (∃ i, Issue.decode (Json.ofMembers vs) = .ok i ∧ i.line = k) ↔
      n.literal.value? = some (.natural k) ∧ 1 ≤ k ∧ k ≤ maxLine := by
  obtain ⟨w, hw, hline⟩ := exists_lookup_line h
  obtain ⟨m, hm, hmessage⟩ := exists_lookup_text h (by decide) o.message_once
  obtain ⟨t, -, hlevel⟩ := exists_lookup_text h (by decide) o.level_once
  have hne : String.ofList m ≠ "" := by
    intro he
    obtain rfl : m = [] := String.ofList_injective he
    exact o.message_ne_nil (Piece.eq_nil_of_decode hm)
  constructor
  · rintro ⟨i, hi, rfl⟩
    obtain ⟨⟨ms, hms, hl, -, -⟩ | harray, hpos, hle, -⟩ := Issue.decode_eq_ok_iff_reports.1 hi
    · obtain rfl := Json.obj.inj hms
      obtain rfl := Json.num.inj (Option.some.inj (hline.symm.trans hl))
      exact ⟨hw, hpos, hle⟩
    · cases harray
  · rintro ⟨hk, hpos, hle⟩
    obtain rfl := Option.some.inj (hw.symm.trans hk)
    exact ⟨⟨k, String.ofList m, String.ofList t⟩, Issue.decode_eq_ok_iff_reports.2
      ⟨.inl ⟨_, rfl, hline, hmessage, hlevel⟩, hpos, hle, hne⟩, rfl⟩

end

/-- The literal must have a number that can be read, and every other member must be readable. -/
theorem readable_fill_iff :
    (o.fill n).Readable ↔ n.literal.value?.isSome ∧
      ∀ m ∈ o.front ++ o.back, (memberWithin (maxNesting - 2) m).isSome := by
  have hline : (memberWithin (maxNesting - 2)
      (o.key, .padded o.beforeLine (.num n) o.afterLine)).isSome ↔ n.literal.value?.isSome := by
    have hname : Piece.decode o.key.pieces = some "line".toList := o.line_named
    rw [memberWithin, hname, Option.bind_some, Option.isSome_map]
    show (n.literal.value?.map Json.num).isSome ↔ _
    rw [Option.isSome_map]
  rw [← isSome_within_iff, within_fill, Option.isSome_map, Json.isSome_together_iff,
    List.forall_mem_map, ← hline, members]
  simp only [List.perm_middle.mem_iff, List.forall_mem_cons]

theorem exists_record_iff (table : LineTable) (h : (o.fill n).Readable) {k : Nat} :
    (∃ d, record? table (o.fill n) = some d ∧ d.line = k) ↔
      n.literal.value? = some (.natural k) ∧ 1 ≤ k ∧ k ≤ maxLine := by
  obtain ⟨v, hv⟩ := Option.isSome_iff_exists.1 (isSome_within_iff.2 h)
  have hwithin := hv
  rw [within_fill, Option.map_eq_some_iff] at hwithin
  obtain ⟨vs, hvs, rfl⟩ := hwithin
  rw [← exists_decode_iff (Json.together_eq_some_iff.1 hvs), record?, hv, Option.bind_some]
  simp only [Outcome.toOption_eq_some_iff, value_ofElement_eq_ok_iff]
  constructor
  · rintro ⟨_, ⟨i, hi, rfl⟩, hk⟩
    exact ⟨i, hi, hk⟩
  · rintro ⟨i, hi, hk⟩
    exact ⟨_, ⟨i, hi, rfl⟩, hk⟩

end Outline

/-! ### The element among others -/

/-- Output with the object among the elements of its array. -/
def Outline.output (o : Outline) (f : Frame) (front back : List Spelling) (n : Numeral) : String :=
  f.output (front ++ o.fill n :: back)

theorem getElem?_slots_output_iff (table : LineTable) (o : Outline) (f : Frame)
    (front back : List Spelling) (n : Numeral) {k : Nat} :
    (∃ d, (slots table (o.output f front back n))[front.length]? = some (some d) ∧ d.line = k) ↔
      BeginsWithArray (o.output f front back (.ofNat 0)) ∧
        n.literal.value? = some (.natural k) ∧ 1 ≤ k ∧ k ≤ maxLine := by
  have hzero : (Numeral.ofNat 0).literal.value?.isSome := by decide
  have hreadable (m : Numeral) : (∀ e ∈ front ++ o.fill m :: back, e.Readable) ↔
      (o.fill m).Readable ∧ ∀ e ∈ front ++ back, e.Readable := by
    simp only [mem_replaced_iff, forall_eq_or_imp]
  have helement : (front ++ o.fill n :: back)[front.length]? = some (o.fill n) := by simp
  simp only [Outline.output, getElem?_slots_iff, helement, Option.some.injEq, exists_eq_left',
    beginsWithArray_output_iff, hreadable]
  constructor
  · rintro ⟨d, ⟨⟨hfill, hothers⟩, hd⟩, hk⟩
    have hmembers := (Outline.readable_fill_iff.1 hfill).2
    exact ⟨⟨Outline.readable_fill_iff.2 ⟨hzero, hmembers⟩, hothers⟩,
      (Outline.exists_record_iff table hfill).1 ⟨d, hd, hk⟩⟩
  · rintro ⟨⟨hfill, hothers⟩, hvalue, hbounds⟩
    have hmembers := (Outline.readable_fill_iff.1 hfill).2
    have hfill : (o.fill n).Readable :=
      Outline.readable_fill_iff.2 ⟨by rw [hvalue]; rfl, hmembers⟩
    obtain ⟨d, hd, hk⟩ := (Outline.exists_record_iff table hfill).2 ⟨hvalue, hbounds⟩
    exact ⟨d, ⟨⟨hfill, hothers⟩, hd⟩, hk⟩

/-- An object that lacks nothing but the literal of its line has a record just if the output could
be read with another literal in its place and the literal has digits alone, of a number that a word
of 32 bits can hold and that is not 0. The line of the record is this number, whatever its length
and form. -/
theorem line_of_literal (table : LineTable) (o : Outline) (f : Frame)
    (front back : List Spelling) (n : Numeral) :
    (ofOutput table (o.output f front back n)).value =
        (slots table (o.output f front back n)).filterMap id ∧
      ((∃ d, (slots table (o.output f front back n))[front.length]? = some (some d)) ↔
        BeginsWithArray (o.output f front back (.ofNat 0)) ∧
          n.literal.DigitsOnly ∧ 1 ≤ n.literal.toRat ∧ n.literal.toRat ≤ 4294967295) ∧
      ∀ d, (slots table (o.output f front back n))[front.length]? = some (some d) →
        d.line = n.literal.toRat := by
  have hmax : (maxLine : ℚ) = 4294967295 := by
    rw [show maxLine = 4294967295 from rfl, Nat.cast_ofNat]
  refine ⟨(filterMap_slots table _).symm, ?_, fun d hd => ?_⟩
  · rw [← hmax, ← Literal.exists_natural_iff (by decide), ← exists_and_left]
    simp only [← getElem?_slots_output_iff table]
    exact ⟨fun ⟨d, hd⟩ => ⟨d.line, d, hd, rfl⟩, fun ⟨_, d, hd, _⟩ => ⟨d, hd⟩⟩
  · obtain ⟨-, hvalue, -⟩ := (getElem?_slots_output_iff table o f front back n).1 ⟨d, hd, rfl⟩
    exact (Literal.value?_eq_natural_iff.1 hvalue).2.1.symm

example : ∃ (o : Outline) (f : Frame), o.output f [] [] (.ofNat 4294967297) =
      "[\x7b\x22line\x22:4294967297,\x22message\x22:\x22m\x22,\x22level\x22:\x22error\x22\x7d]" ∧
    BeginsWithArray (o.output f [] [] (.ofNat 4294967297)) ∧
    slots (.ofText "FROM a") (o.output f [] [] (.ofNat 4294967297)) = [none] := by
  let key (name : String) : Key := ⟨.none, Piece.ofString name, .none⟩
  let o : Outline :=
    ⟨.none, .none, .none, [], key "line", .none, .none,
      [(key "message", .str (Piece.ofString "m")), (key "level", .str (Piece.ofString "error"))],
      Piece.ofString "m", Piece.ofString "error", by decide, by decide, rfl, by decide, rfl⟩
  exact ⟨o, ⟨.none, .none, []⟩, by decide +kernel, by decide +kernel, by decide +kernel⟩

end Findings

end DockLint

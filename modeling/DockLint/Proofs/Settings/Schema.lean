import DockLint.Proofs.Outcome
import DockLint.Proofs.Settings

/-!
# Files that hold settings

`Fits` says what a document has to be like for settings and which they are. A file holds them if its
bytes are a text and the text is such a document (`Holds`), and it is refused for the first of these
that is not so (`Refuses`). Loading decides between the two (`load_eq_ok_iff`,
`load_eq_error_iff`).
-/

namespace DockLint.Settings

open Toml (Table Node)

variable {f : Files} {path text : String} {s : Settings} {t : Table} {node : Node}
  {entry : Option Node} {failure : SettingsFailure}

/-! ### The schema -/

/-- What stands under other keys does not matter, as long as no number in it is too large. -/
def Ignorable (t : Table) (key : String) : Prop :=
  ∀ e ∈ t, e.1 = key ∨ e.2.isSized = true

/-- The path of the linter is a text, and need not be there. -/
inductive EntryFits : Option Node → Settings → Prop where
  | absent : EntryFits none default
  | path {path : String} : EntryFits (some (.scalar (.text path))) ⟨some path⟩

/-- The linter's part is a table with the path in it, or an array with the path at its front. -/
inductive NodeFits : Node → Settings → Prop where
  | table {origin : Toml.Origin} {entries : Table} {s : Settings}
    (hignored : Ignorable entries "path") (h : EntryFits (entries.lookup "path") s) :
    NodeFits (.table origin entries) s
  | inline {entries : Table} {s : Settings} (hignored : Ignorable entries "path")
    (h : EntryFits (entries.lookup "path") s) : NodeFits (.inline entries) s
  | array {elements : List Node} {s : Settings} (h : EntryFits elements.head? s) :
    NodeFits (.array elements) s
  | tables : NodeFits (.tables []) default
  | date {literal : String} : NodeFits (.scalar (.date literal)) default

structure Fits (t : Table) (s : Settings) : Prop where
  ignored : Ignorable t "hadolint"
  linter : t.lookup "hadolint" = none ∧ s = default ∨
    ∃ node, t.lookup "hadolint" = some node ∧ NodeFits node s

theorem isReadable_iff {key : String} : isReadable t key = true ↔ Ignorable t key := by
  simp only [isReadable, Ignorable, List.all_eq_true, Bool.or_eq_true, beq_iff_eq]

theorem ofEntry?_eq_some_iff : ofNode?.ofEntry? entry = some s ↔ EntryFits entry s := by
  constructor
  · fun_cases ofNode?.ofEntry? entry with
    | case1 =>
      rintro ⟨⟩
      exact .absent
    | case2 path =>
      rintro ⟨⟩
      exact .path
    | case3 => simp
  · rintro (_ | _) <;> rfl

theorem ofEntries?_eq_some_iff : ofNode?.ofEntries? t = some s ↔
    Ignorable t "path" ∧ EntryFits (t.lookup "path") s := by
  rw [ofNode?.ofEntries?, Option.ite_none_right_eq_some, isReadable_iff, ofEntry?_eq_some_iff]

theorem ofNode?_eq_some_iff : ofNode? node = some s ↔ NodeFits node s := by
  constructor
  · fun_cases ofNode? node with
    | case1 =>
      rintro ⟨⟩
      exact .date
    | case2 | case3 =>
      intro h
      obtain ⟨hignored, h⟩ := ofEntries?_eq_some_iff.1 h
      constructor <;> assumption
    | case4 => exact fun h => .array (ofEntry?_eq_some_iff.1 h)
    | case5 =>
      rintro ⟨⟩
      exact .tables
    | case6 | case7 => simp
  · rintro (⟨hignored, h⟩ | ⟨hignored, h⟩ | h | _ | _)
    · exact ofEntries?_eq_some_iff.2 ⟨hignored, h⟩
    · exact ofEntries?_eq_some_iff.2 ⟨hignored, h⟩
    · exact ofEntry?_eq_some_iff.2 h
    · rfl
    · rfl

theorem ofTable?_eq_some_iff : ofTable? t = some s ↔ Fits t s := by
  rw [ofTable?, Option.ite_none_left_eq_some, Decidable.not_not, isReadable_iff]
  constructor
  · rintro ⟨hignored, h⟩
    refine ⟨hignored, ?_⟩
    cases hlookup : t.lookup "hadolint" with
    | none =>
      rw [hlookup] at h
      exact .inl ⟨rfl, (Option.some.inj h).symm⟩
    | some node =>
      rw [hlookup] at h
      exact .inr ⟨node, rfl, ofNode?_eq_some_iff.1 h⟩
  · rintro ⟨hignored, ⟨hlookup, rfl⟩ | ⟨node, hlookup, h⟩⟩
    · exact ⟨hignored, by rw [hlookup]⟩
    · rw [hlookup]
      exact ⟨hignored, ofNode?_eq_some_iff.2 h⟩

/-! ### Files -/

/-- The text is a document of the schema, and these are its settings. -/
def Describes (text : String) (s : Settings) : Prop :=
  ∃ t, Toml.read text = .ok t ∧ Fits t s

/-- The file can be read, as a text that describes settings. -/
def Holds (f : Files) (path : String) (s : Settings) : Prop :=
  ∃ text, f.read path = .ok (utf8 text) ∧ Describes text s

/-- Why a file is not used: it cannot be read, is no text, or describes no settings. -/
inductive Refuses (f : Files) (path : String) : SettingsFailure → Prop where
  | unreadable {cause : String} (h : f.read path = .error cause) :
    Refuses f path (.unreadable path cause)
  | notText {bytes : List UInt8} (h : f.read path = .ok bytes)
    (hbytes : ∀ text, bytes ≠ utf8 text) :
    Refuses f path (.unreadable path "stream did not contain valid UTF-8")
  | malformed {text : String} (h : f.read path = .ok (utf8 text))
    (hnone : ∀ s, ¬ Describes text s) : Refuses f path (.malformed path (f.reason text))

theorem ofText?_eq_some_iff : ofText? text = some s ↔ Describes text s := by
  simp only [ofText?, Option.bind_eq_some_iff, Outcome.toOption_eq_some_iff, ofTable?_eq_some_iff]
  rfl

theorem ofText?_eq_none_iff : ofText? text = none ↔ ∀ s, ¬ Describes text s := by
  simp only [← ofText?_eq_some_iff, Option.eq_none_iff_forall_ne_some, ne_eq]

theorem load_of_text (h : f.read path = .ok (utf8 text)) :
    load f path = (ofText? text).elim (.error (.malformed path (f.reason text))) .ok := by
  rw [load, Files.readText_eq_ok_iff.2 h]
  cases hdoc : ofText? text <;> simp [hdoc]

theorem load_of_holds (h : Holds f path s) : load f path = .ok s := by
  obtain ⟨text, hread, hdoc⟩ := h
  rw [load_of_text hread, ofText?_eq_some_iff.2 hdoc]
  rfl

theorem load_of_refuses (h : Refuses f path failure) : load f path = .error failure := by
  cases h with
  | unreadable h => rw [load, Files.readText, h]
  | @notText bytes h hbytes =>
    have hnone : ofUtf8? bytes = none :=
      Option.eq_none_iff_forall_ne_some.2 fun text he => hbytes text (ofUtf8?_eq_some_iff.1 he)
    rw [load, Files.readText, h]
    simp only [hnone]
  | malformed h hnone =>
    rw [load_of_text h, ofText?_eq_none_iff.2 hnone]
    rfl

theorem holds_or_refuses (f : Files) (path : String) :
    (∃ s, Holds f path s) ∨ ∃ failure, Refuses f path failure := by
  cases hread : f.read path with
  | error cause => exact .inr ⟨_, .unreadable hread⟩
  | ok bytes =>
    by_cases htext : ∃ text, bytes = utf8 text
    · obtain ⟨text, rfl⟩ := htext
      by_cases hdoc : ∃ s, Describes text s
      · obtain ⟨s, hs⟩ := hdoc
        exact .inl ⟨s, text, hread, hs⟩
      · exact .inr ⟨_, .malformed hread fun s hs => hdoc ⟨s, hs⟩⟩
    · exact .inr ⟨_, .notText hread fun text he => htext ⟨text, he⟩⟩

theorem load_eq_ok_iff : load f path = .ok s ↔ Holds f path s := by
  refine ⟨fun h => ?_, load_of_holds⟩
  obtain ⟨s', hs⟩ | ⟨failure, hfailure⟩ := holds_or_refuses f path
  · rw [load_of_holds hs] at h
    cases h
    exact hs
  · rw [load_of_refuses hfailure] at h
    cases h

theorem load_eq_error_iff : load f path = .error failure ↔ Refuses f path failure := by
  refine ⟨fun h => ?_, load_of_refuses⟩
  obtain ⟨s, hs⟩ | ⟨failure', hfailure⟩ := holds_or_refuses f path
  · rw [load_of_holds hs] at h
    cases h
  · rw [load_of_refuses hfailure] at h
    cases h
    exact hfailure

end DockLint.Settings

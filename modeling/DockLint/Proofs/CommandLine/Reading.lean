import DockLint.Proofs.CommandLine.Spelling

/-!
# Reading the arguments of one level

A value is looked at only when the next argument comes, so what a level has been given is compared
after settling: `Given.ofItems items` is what is left when the items have been said. Each piece of
a spelling takes the reader from some items to those with its own behind them.
-/

namespace DockLint.CommandLine

/-- Nothing that may be given once is given twice. -/
structure Once (items : List Item) : Prop where
  config : items.countP (·.config?.isSome) ≤ 1
  format : items.countP (·.format?.isSome) ≤ 1
  path : items.countP (·.path?.isSome) ≤ 1
  quiet : items.count .quiet ≤ 1

theorem Once.of_subperm {items items' : List Item} (h : items.Subperm items') (once : Once items') :
    Once items :=
  ⟨Nat.le_trans (h.countP_le _) once.config, Nat.le_trans (h.countP_le _) once.format,
    Nat.le_trans (h.countP_le _) once.path, Nat.le_trans (h.countP_le _) once.quiet⟩

theorem Once.left {items items' : List Item} (once : Once (items ++ items')) : Once items :=
  once.of_subperm (List.sublist_append_left _ _).subperm

theorem Once.right {items items' : List Item} (once : Once (items ++ items')) : Once items' :=
  once.of_subperm (List.sublist_append_right _ _).subperm

/-- The items that a level has a place for. -/
def Level.Takes (level : Level) (i : Item) : Prop :=
  i.isGlobal ∨ level = .lint

namespace Item

/-- The item gives the slot this text. -/
inductive Fills : Item → Slot → String → Prop where
  | config (file : String) : Fills (config file) .config file
  | format (f : Format) : Fills (format f) .format f.name
  | path (file : String) : Fills (path file) .path file

def Valid (i : Item) : Prop :=
  ∀ f ∈ i.file?, IsFile f

end Item

def Letter.flag : Letter → Flag
  | verbose => .verbose
  | quiet => .quiet

/-! ### What a level has been given -/

namespace Given

def ofItems (items : List Item) : Given where
  config? := items.findSome? Item.config?
  format? := items.findSome? Item.format?
  path? := items.findSome? Item.path?
  verbose := min 255 (items.count .verbose)
  quiet := items.contains .quiet
  pending := .none
  trailing := false

/-- The items have been said, the last of them perhaps not looked at. -/
def Reads (g : Given) (items : List Item) : Prop :=
  g.settle = .ok (ofItems items)

theorem reads_ofItems (items : List Item) : (ofItems items).Reads items :=
  rfl

theorem reads_none : Given.none.Reads [] :=
  rfl

theorem findSome?_eq_none_of_once {α : Type} {p : Item → Option α} {items : List Item} {i : Item}
    (h : (items ++ [i]).countP (fun i => (p i).isSome) ≤ 1) (hi : (p i).isSome = true) :
    items.findSome? p = .none := by
  have hzero : items.countP (fun i => (p i).isSome) = 0 := by
    simp only [List.countP_append, List.countP_singleton, hi, if_true] at h
    omega
  rw [List.findSome?_eq_none_iff]
  intro j hj
  simpa using List.countP_eq_zero.1 hzero j hj

theorem nonempty_toList {s : String} (h : IsFile s) : nonempty s.toList = .ok s := by
  have hne : s.toList ≠ [] := by simpa using h.1
  simp [nonempty, hne]

theorem set_ofItems {items : List Item} {i : Item} {slot : Slot} {text : String}
    (h : i.Fills slot text) (hi : i.Valid) (once : Once (items ++ [i])) :
    (ofItems items).set slot text.toList = .ok (ofItems (items ++ [i])) := by
  cases h with
  | config file =>
    have hnone := findSome?_eq_none_of_once once.config rfl
    have hfile := nonempty_toList (hi _ rfl)
    simp [set, ofItems, hnone, hfile, List.findSome?_append, Item.config?, Item.format?, Item.path?]
  | format f =>
    have hnone := findSome?_eq_none_of_once once.format rfl
    simp [set, ofItems, hnone, Format.ofName?_name, List.findSome?_append, Item.config?,
      Item.format?, Item.path?, pure, Except.pure]
  | path file =>
    have hnone := findSome?_eq_none_of_once once.path rfl
    have hfile := nonempty_toList (hi _ rfl)
    simp [set, ofItems, hnone, hfile, List.findSome?_append, Item.config?, Item.format?, Item.path?]

variable {g g' : Given} {items : List Item}

theorem set_eq_ok {slot : Slot} {v : List Char} (h : g.set slot v = .ok g') :
    g'.trailing = g.trailing ∧ g'.path?.isSome = (g.path?.isSome || slot == .path) := by
  cases slot
  all_goals
    simp only [set, bind, Except.bind] at h
    split at h
    · cases h
    split at h <;> cases h
    simp

theorem settle_eq_ok (h : g.settle = .ok g') :
    g'.trailing = g.trailing ∧ g.awaits = false ∧ g'.path?.isSome = g.hasPath := by
  obtain ⟨c, f, p, n, q, pending, t⟩ := g
  rcases pending with _ | ⟨slot, _ | v⟩
  · cases h
    simp [awaits, hasPath]
  · cases h
  · obtain ⟨ht, hp⟩ := set_eq_ok h
    exact ⟨ht, rfl, hp⟩

theorem Reads.trailing (hg : g.Reads items) : g.trailing = false :=
  (settle_eq_ok hg).1.symm

theorem Reads.awaits (hg : g.Reads items) : g.awaits = false :=
  (settle_eq_ok hg).2.1

theorem Reads.hasPath (hg : g.Reads items) : g.hasPath = (items.findSome? Item.path?).isSome :=
  (settle_eq_ok hg).2.2.symm

theorem ofItems_append_verbose (items : List Item) :
    ofItems (items ++ [.verbose]) =
      { ofItems items with verbose := min 255 ((ofItems items).verbose + 1) } := by
  have hmin : min 255 (items.count .verbose + 1) =
      min 255 (min 255 (items.count .verbose) + 1) := by
    omega
  simp [ofItems, List.findSome?_append, hmin, Item.config?, Item.format?, Item.path?]

theorem ofItems_append_quiet (items : List Item) :
    ofItems (items ++ [.quiet]) = { ofItems items with quiet := true } := by
  simp [ofItems, List.findSome?_append, Item.config?, Item.format?, Item.path?]

theorem Reads.flag (hg : g.Reads items) (l : Letter) (once : Once (items ++ [l.item])) :
    g.flag l.flag = .ok (ofItems (items ++ [l.item])) := by
  have hsettle : g.settle = .ok (ofItems items) := hg
  simp only [Given.flag, hsettle, bind, Except.bind]
  cases l with
  | verbose => simp only [Letter.flag, Letter.item, ofItems_append_verbose]; rfl
  | quiet =>
    have hquiet : (ofItems items).quiet = false := by
      have hcount : items.count .quiet = 0 := by simpa [Letter.item] using once.quiet
      simpa [ofItems] using List.count_eq_zero.1 hcount
    simp only [Letter.flag, Letter.item, ofItems_append_quiet, hquiet]; rfl

theorem Reads.slot_some (hg : g.Reads items) {i : Item} {slot : Slot} {text : String}
    (h : i.Fills slot text) (hi : i.Valid) (once : Once (items ++ [i])) :
    g.slot slot (some text.toList) = .ok (ofItems (items ++ [i])) := by
  have hsettle : g.settle = .ok (ofItems items) := hg
  simp only [Given.slot, hsettle, bind, Except.bind]
  exact set_ofItems h hi once

/-- The items have been said and a slot is to be filled. -/
def waiting (items : List Item) (slot : Slot) : Given :=
  { ofItems items with pending := some (slot, .none) }

theorem Reads.slot_none (hg : g.Reads items) (slot : Slot) :
    g.slot slot .none = .ok (waiting items slot) := by
  have hsettle : g.settle = .ok (ofItems items) := hg
  simp only [Given.slot, hsettle, bind, Except.bind]
  rfl

/-- The items have been said and a slot's text is known but not looked at. -/
def filled (items : List Item) (slot : Slot) (text : String) : Given :=
  { ofItems items with pending := some (slot, some text.toList) }

theorem reads_filled {i : Item} {slot : Slot} {text : String}
    (h : i.Fills slot text) (hi : i.Valid) (once : Once (items ++ [i])) :
    (filled items slot text).Reads (items ++ [i]) :=
  set_ofItems h hi once

end Given

/-! ### Outer forms -/

theorem splitValue_cons {c : Char} (h : c ≠ '=') (s : List Char) :
    splitValue (c :: s) = (c :: (splitValue s).1, (splitValue s).2) := by
  simp [splitValue, h]

theorem splitValue_of_not_mem {name : List Char} (h : '=' ∉ name) :
    splitValue name = (name, none) := by
  induction name with
  | nil => rfl
  | cons c name ih =>
    simp only [List.mem_cons, not_or] at h
    rw [splitValue_cons (Ne.symm h.1), ih h.2]

theorem splitValue_append {name : List Char} (h : '=' ∉ name) (v : List Char) :
    splitValue (name ++ '=' :: v) = (name, some v) := by
  induction name with
  | nil => simp [splitValue]
  | cons c name ih =>
    simp only [List.mem_cons, not_or] at h
    rw [List.cons_append, splitValue_cons (Ne.symm h.1), ih h.2]

theorem ofChars_long {s : List Char} (h : s ≠ []) :
    Word.ofChars ('-' :: '-' :: s) = .long (splitValue s).1 (splitValue s).2 := by
  cases s with
  | nil => exact absurd rfl h
  | cons c s => rfl

theorem ofChars_short {c : Char} (h : c ≠ '-') (s : List Char) :
    Word.ofChars ('-' :: c :: s) = .short (c :: s) := by
  unfold Word.ofChars
  split <;> simp_all

theorem ofChars_file {s : String} (h : IsFile s) : Word.ofChars s.toList = .plain s.toList := by
  obtain ⟨hne, hhead | rfl⟩ := h
  · unfold Word.ofChars
    split <;> simp_all
  · decide

theorem ofChars_text {i : Item} {slot : Slot} {text : String} (h : i.Fills slot text)
    (hi : i.Valid) : Word.ofChars text.toList = .plain text.toList := by
  cases h with
  | config => exact ofChars_file (hi _ rfl)
  | format f => cases f <;> decide
  | path => exact ofChars_file (hi _ rfl)

/-- The name of an option has no equals sign, and is known where the option may stand. -/
theorem long?_name {level : Level} {i : Item} {name text : String} (h : i.Named name text)
    (hl : level.Takes i) : ∃ slot, i.Fills slot text ∧
      level.long? name.toList = some (.slot slot) ∧ name.toList ≠ [] ∧ '=' ∉ name.toList := by
  cases h with
  | config => exact ⟨.config, .config _, by simp [Level.long?], by decide, by decide⟩
  | format f =>
    obtain rfl : level = .lint := hl.resolve_left (by simp [Item.isGlobal, Item.format?])
    exact ⟨.format, .format f, by decide, by decide, by decide⟩

/-! ### Runs of the reader -/

/-- The arguments are taken one by one, none of them as the name of a command. -/
inductive Runs (level : Level) : Given → List String → Given → Prop where
  | nil (g : Given) : Runs level g [] g
  | cons {g g' k : Given} {s : String} {args : List String} :
    step level g s.toList = .ok g' → (level = .top → startsCommand g s.toList = false) →
    Runs level g' args k → Runs level g (s :: args) k

namespace Runs
variable {level : Level} {g h k : Given} {as bs : List String}

theorem single {s : String} (hs : step level g s.toList = .ok h)
    (hc : level = .top → startsCommand g s.toList = false) : Runs level g [s] h :=
  .cons hs hc (.nil h)

theorem append (ha : Runs level g as h) (hb : Runs level h bs k) : Runs level g (as ++ bs) k := by
  induction ha with
  | nil g => exact hb
  | cons hs hc _ ih => exact .cons hs hc (ih hb)

end Runs

variable {level : Level} {g : Given} {items : List Item}

theorem startsCommand_dash (g : Given) (s : List Char) : startsCommand g ('-' :: s) = false := by
  simp [startsCommand, isCommandName, commandNames]

theorem step_long (hg : g.Reads items) {s : List Char} (hs : s ≠ []) :
    step level g ('-' :: '-' :: s) = g.long level (splitValue s).1 (splitValue s).2 := by
  simp only [step, hg.trailing, ofChars_long hs]
  rfl

theorem step_short (hg : g.Reads items) {c : Char} (hc : c ≠ '-') (s : List Char) :
    step level g ('-' :: c :: s) = g.short level (c :: s) := by
  simp only [step, hg.trailing, ofChars_short hc]
  rfl

theorem step_plain (hg : g.Reads items) {s : List Char} (hs : Word.ofChars s = .plain s) :
    step level g s = positional level g s := by
  simp only [step, hg.trailing, hs]
  rcases hp : g.pending with _ | ⟨slot, _ | v⟩
  · rfl
  · have := hg.awaits
    simp [Given.awaits, hp] at this
  · rfl

/-- An option's value is taken as it stands, also where it names a command. -/
theorem runs_waiting {i : Item} {slot : Slot} {text : String}
    (h : i.Fills slot text) (hi : i.Valid) :
    Runs level (.waiting items slot) [text] (.filled items slot text) := by
  refine .single ?_ fun _ => rfl
  simp only [step, ofChars_text h hi]
  rfl

theorem runs_flag (hg : g.Reads items) (l : Letter) (once : Once (items ++ [l.item])) :
    Runs level g ["--" ++ l.name] (.ofItems (items ++ [l.item])) := by
  have hword : ("--" ++ l.name).toList = '-' :: '-' :: l.name.toList := by simp
  have hname : l.name.toList ≠ [] ∧ '=' ∉ l.name.toList := by cases l <;> decide
  have hlong : level.long? l.name.toList = some (.flag l.flag) := by
    cases l <;> simp [Level.long?, Letter.name, Letter.flag]
  refine .single ?_ fun _ => by rw [hword, startsCommand_dash]
  rw [hword, step_long hg hname.1, splitValue_of_not_mem hname.2]
  simp only [Given.long, hlong]
  exact hg.flag l once

theorem runs_value (hg : g.Reads items) {i : Item} {name text : String}
    (h : i.Named name text) (hl : level.Takes i) (hi : i.Valid)
    (once : Once (items ++ [i])) :
    ∃ g', Runs level g ["--" ++ name, text] g' ∧ g'.Reads (items ++ [i]) := by
  obtain ⟨slot, hslot, hlong, hne, heq⟩ := long?_name h hl
  have hword : ("--" ++ name).toList = '-' :: '-' :: name.toList := by simp
  refine ⟨.filled items slot text, ?_, Given.reads_filled hslot hi once⟩
  refine .cons ?_ (fun _ => by rw [hword, startsCommand_dash]) (runs_waiting hslot hi)
  rw [hword, step_long hg hne, splitValue_of_not_mem heq]
  simp only [Given.long, hlong]
  exact hg.slot_none slot

theorem runs_attached (hg : g.Reads items) {i : Item} {name text : String}
    (h : i.Named name text) (hl : level.Takes i) (hi : i.Valid)
    (once : Once (items ++ [i])) :
    Runs level g ["--" ++ name ++ "=" ++ text] (.ofItems (items ++ [i])) := by
  obtain ⟨slot, hslot, hlong, -, heq⟩ := long?_name h hl
  have hword : ("--" ++ name ++ "=" ++ text).toList =
      '-' :: '-' :: (name.toList ++ '=' :: text.toList) := by simp
  refine .single ?_ fun _ => by rw [hword, startsCommand_dash]
  rw [hword, step_long hg (by simp), splitValue_append heq]
  simp only [Given.long, hlong]
  exact hg.slot_some hslot hi once

theorem runs_path (hg : g.Reads items) {file : String} (hfile : IsFile file)
    (once : Once (items ++ [.path file])) : Runs .lint g [file] (.filled items .path file) := by
  have hnone := Given.findSome?_eq_none_of_once once.path rfl
  have hpath : g.hasPath = false := by rw [hg.hasPath, hnone]; rfl
  have hsettle : g.settle = .ok (.ofItems items) := hg
  refine .single ?_ fun h => by cases h
  rw [step_plain hg (ofChars_file hfile)]
  simp only [positional, hpath, hsettle, bind, Except.bind]
  rfl

theorem Letter.char_ne_dash (l : Letter) : l.char ≠ '-' := by
  cases l <;> decide

/-- A bundle says its letters in turn. What is behind them is read with their items said. -/
theorem short_letters (level : Level) (hg : g.Reads items) (ls : List Letter) (rest : List Char)
    (once : Once (items ++ ls.map Letter.item)) :
    ∃ g' : Given, g'.Reads (items ++ ls.map Letter.item) ∧
      g.short level (ls.map Letter.char ++ rest) = g'.short level rest := by
  induction ls generalizing g items with
  | nil => exact ⟨g, by simpa using hg, rfl⟩
  | cons l ls ih =>
    rw [List.map_cons, ← List.singleton_append, ← List.append_assoc] at once ⊢
    obtain ⟨g', hg', hrest⟩ := ih (Given.reads_ofItems (items ++ [l.item])) once
    have hshort : level.short? l.char = some (.flag l.flag) := by
      cases l <;> simp [Level.short?, Letter.char, Letter.flag]
    refine ⟨g', hg', ?_⟩
    rw [List.map_cons, List.cons_append, Given.short]
    simp only [hshort, hg.flag l once.left]
    exact hrest

theorem step_bundle (hg : g.Reads items) {ls : List Letter} {rest : List Char}
    (h : ls ≠ [] ∨ rest.head? = some 'c') :
    step level g (bundle ls rest).toList = g.short level (ls.map Letter.char ++ rest) := by
  rw [bundle, String.toList_ofList]
  rcases ls with _ | ⟨l, ls⟩
  · obtain ⟨s, rfl⟩ : ∃ s, rest = 'c' :: s := by
      simpa [List.head?_eq_some_iff] using h
    exact step_short hg (by decide) s
  · exact step_short hg l.char_ne_dash _

theorem startsCommand_bundle (g : Given) (ls : List Letter) (rest : List Char) :
    startsCommand g (bundle ls rest).toList = false := by
  rw [bundle, String.toList_ofList, startsCommand_dash]

/-- One piece is read as the items it says. -/
theorem Piece.runs {is : List Item} {as : List String} (h : Piece is as) (hg : g.Reads items)
    (once : Once (items ++ is)) (hl : ∀ i ∈ is, level.Takes i) (hi : ∀ i ∈ is, i.Valid) :
    ∃ g', Runs level g as g' ∧ g'.Reads (items ++ is) := by
  cases h with
  | flag l => exact ⟨_, runs_flag hg l once, Given.reads_ofItems _⟩
  | value h => exact runs_value hg h (hl _ (by simp)) (hi _ (by simp)) once
  | attached h =>
    exact ⟨_, runs_attached hg h (hl _ (by simp)) (hi _ (by simp)) once, Given.reads_ofItems _⟩
  | @letters ls hne =>
    obtain ⟨g', hg', hshort⟩ := short_letters level hg ls [] once
    refine ⟨g', .single ?_ fun _ => startsCommand_bundle .., hg'⟩
    rw [step_bundle hg (.inl hne), hshort, Given.short]
  | lettersValue ls file =>
    rw [← List.append_assoc] at once ⊢
    obtain ⟨g', hg', hshort⟩ := short_letters level hg ls ['c'] once.left
    have hfile : (Item.config file).Valid := hi _ (by simp)
    refine ⟨.filled _ .config file, ?_, Given.reads_filled (.config file) hfile once⟩
    refine .cons ?_ (fun _ => startsCommand_bundle ..) (runs_waiting (.config file) hfile)
    rw [step_bundle hg (.inr rfl), hshort]
    exact hg'.slot_none .config
  | lettersAttached ls file =>
    rw [← List.append_assoc] at once ⊢
    obtain ⟨g', hg', hshort⟩ :=
      short_letters level hg ls ('c' :: '=' :: file.toList) once.left
    refine ⟨_, .single ?_ fun _ => startsCommand_bundle .., Given.reads_ofItems _⟩
    rw [step_bundle hg (.inr rfl), hshort]
    exact hg'.slot_some (.config file) (hi _ (by simp)) once
  | path file =>
    obtain rfl : level = .lint :=
      (hl _ (List.mem_singleton_self _)).resolve_left (by simp [Item.isGlobal, Item.path?])
    have hfile : (Item.path file).Valid := hi _ (by simp)
    exact ⟨_, runs_path hg (hfile file rfl) once, Given.reads_filled (.path file) hfile once⟩

/-- The arguments of a level are read as the items they spell. -/
theorem Spells.runs {is : List Item} {as : List String} (h : Spells is as) (hg : g.Reads items)
    (once : Once (items ++ is)) (hl : ∀ i ∈ is, level.Takes i) (hi : ∀ i ∈ is, i.Valid) :
    ∃ g', Runs level g as g' ∧ g'.Reads (items ++ is) := by
  induction h generalizing g items with
  | nil => exact ⟨g, .nil g, by simpa using hg⟩
  | cons piece _ ih =>
    rw [← List.append_assoc] at once ⊢
    simp only [List.forall_mem_append] at hl hi
    obtain ⟨g₁, hrun₁, hg₁⟩ := piece.runs hg once.left hl.1 hi.1
    obtain ⟨g₂, hrun₂, hg₂⟩ := ih hg₁ once hl.2 hi.2
    exact ⟨g₂, hrun₁.append hrun₂, hg₂⟩

theorem Runs.foldlM {k : Given} {as : List String} (h : Runs level g as k) :
    as.foldlM (fun g s => step level g s.toList) g = .ok k := by
  induction h with
  | nil g => rfl
  | cons hs _ _ ih => rw [List.foldlM_cons, hs]; exact ih

theorem Runs.readTop_append {k : Given} {as : List String} (h : Runs .top g as k)
    (rest : List String) : readTop g (as ++ rest) = readTop k rest := by
  induction h with
  | nil g => rfl
  | cons hs hc _ ih => rw [List.cons_append, readTop, hc rfl, hs]; exact ih

/-- A level whose arguments spell items gives what they say. -/
theorem readLevel_of_spells {as : List String} (h : Spells items as) (once : Once items)
    (hl : ∀ i ∈ items, level.Takes i) (hi : ∀ i ∈ items, i.Valid) :
    readLevel level as = .ok (.ofItems items) := by
  obtain ⟨g, hrun, hg⟩ := h.runs Given.reads_none once hl hi
  rw [readLevel, hrun.foldlM]
  exact hg

/-- The top level ends at the first command's name that is no value. -/
theorem readTop_of_spells {as : List String} (h : Spells items as) (once : Once items)
    (hl : ∀ i ∈ items, i.isGlobal) (hi : ∀ i ∈ items, i.Valid) {name : String}
    (hname : isCommandName name.toList = true) (rest : List String) :
    ∃ g : Given, g.Reads items ∧
      readTop .none (as ++ name :: rest) = .ok (g, some (name, rest)) := by
  obtain ⟨g, hrun, hg⟩ := h.runs Given.reads_none once (fun i hm => .inl (hl i hm)) hi
  have hg : g.Reads items := by simpa using hg
  refine ⟨g, hg, ?_⟩
  have hstart : startsCommand g name.toList = true := by
    simp [startsCommand, hg.trailing, hg.awaits, hname]
  rw [hrun.readTop_append, readTop, hstart]
  rfl

end DockLint.CommandLine

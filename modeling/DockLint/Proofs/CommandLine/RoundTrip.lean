import DockLint.Proofs.CommandLine.Reading

/-!
# Reading undoes spelling

Whatever the order, the side of the command's name and the form in which a command's options are
written, the reader gives the command back with the same options, the verbose flags counted to 255.
-/

namespace DockLint.CommandLine

def commandLevel : Command → Level
  | .lint .. => .lint
  | _ => .plain

theorem isCommandName_commandName (command : Command) :
    isCommandName (commandName command).toList = true := by
  cases command with
  | lint => rw [commandName]; decide
  | check => rw [commandName]; decide
  | which => rw [commandName]; decide

/-! ### What items say in any order -/

theorem findSome?_of_perm {α : Type} {p : Item → Option α} {items items' : List Item}
    {o : Option α} (h : items.Perm items') (ho : items'.filterMap p = o.toList) :
    items.findSome? p = o := by
  have hperm : (items.filterMap p).Perm o.toList := ho ▸ h.filterMap p
  rw [← List.head?_filterMap]
  cases o with
  | none => rw [List.perm_nil.1 hperm]; rfl
  | some a => rw [List.perm_singleton.1 hperm]; rfl

theorem filterMap_path?_of_isGlobal {items : List Item} (h : ∀ i ∈ items, i.isGlobal) :
    items.filterMap Item.path? = [] := by
  rw [List.filterMap_eq_nil_iff]
  intro i hi
  have := h i hi
  simp only [Item.isGlobal, Bool.and_eq_true, Option.isNone_iff_eq_none] at this
  exact this.2

theorem filterMap_format?_of_isGlobal {items : List Item} (h : ∀ i ∈ items, i.isGlobal) :
    items.filterMap Item.format? = [] := by
  rw [List.filterMap_eq_nil_iff]
  intro i hi
  have := h i hi
  simp only [Item.isGlobal, Bool.and_eq_true, Option.isNone_iff_eq_none] at this
  exact this.1

/-- Flags counted on one side of the command's name count as they do there. -/
theorem merge_ofItems {command : Command} {before after : List Item} {n : Nat}
    (h : before.count .verbose = n ∧ after.count .verbose = 0 ∨
      before.count .verbose = 0 ∧ after.count .verbose = n) :
    merge command (.ofItems before) (.ofItems after) =
      ⟨command, (after ++ before).findSome? Item.config?, min n 255,
        (after ++ before).contains .quiet⟩ := by
  have hverbose : (if (Given.ofItems after).verbose > 0 then (Given.ofItems after).verbose
      else (Given.ofItems before).verbose) = min n 255 := by
    have hb : (Given.ofItems before).verbose = min 255 (before.count .verbose) := rfl
    have ha : (Given.ofItems after).verbose = min 255 (after.count .verbose) := rfl
    split <;> omega
  simp only [merge, hverbose]
  simp [Given.ofItems, List.findSome?_append]

/-- What all stands on one side is counted there. -/
theorem count_sides (front : Item → Bool) (i : Item) (items : List Item) :
    (items.filter front).count i = items.count i ∧ (items.filter (! front ·)).count i = 0 ∨
      (items.filter front).count i = 0 ∧ (items.filter (! front ·)).count i = items.count i := by
  cases hi : front i with
  | true => exact .inl ⟨List.count_filter hi, List.count_eq_zero.2 (by simp [hi])⟩
  | false => exact .inr ⟨List.count_eq_zero.2 (by simp [hi]), List.count_filter (by simp [hi])⟩

/-! ### What a command's items say -/

section
variable {command : Command} {config? : Option String} {n : Nat} {quiet : Bool}
  {body : List Item}

theorem Body.takes (h : Body command body) : ∀ i ∈ body, (commandLevel command).Takes i := by
  intro i hi
  cases h with
  | lint path f => exact .inr rfl
  | lintText path => exact .inr rfl
  | check => simp at hi
  | which => simp at hi

theorem Body.filterMap_config? (h : Body command body) : body.filterMap Item.config? = [] := by
  cases h <;> rfl

theorem Body.filterMap_path? (h : Body command body) :
    body.filterMap Item.path? = commandFiles command := by
  cases h <;> rfl

theorem Body.count_flag (h : Body command body) (l : Letter) : body.count l.item = 0 := by
  cases h <;> cases l <;> rfl

theorem Body.filterMap_config?_append (h : Body command body) :
    (body ++ globals config? n quiet).filterMap Item.config? = config?.toList := by
  rw [List.filterMap_append, h.filterMap_config?, filterMap_config?_globals, List.nil_append]

theorem Body.filterMap_path?_append (h : Body command body) :
    (body ++ globals config? n quiet).filterMap Item.path? = commandFiles command := by
  rw [List.filterMap_append, h.filterMap_path?,
    filterMap_path?_of_isGlobal fun _ => isGlobal_of_mem_globals, List.append_nil]

theorem Body.count_quiet_append (h : Body command body) :
    (body ++ globals config? n quiet).count .quiet = quiet.toNat := by
  have hbody : body.count .quiet = 0 := h.count_flag .quiet
  rw [List.count_append, hbody, count_quiet_globals, Nat.zero_add]

theorem Body.once (h : Body command body) : Once (body ++ globals config? n quiet) := by
  refine ⟨?_, ?_, ?_, ?_⟩
  · rw [← List.length_filterMap_eq_countP, h.filterMap_config?_append]
    cases config? <;> simp
  · rw [← List.length_filterMap_eq_countP, List.filterMap_append,
      filterMap_format?_of_isGlobal fun _ => isGlobal_of_mem_globals, List.append_nil]
    cases h <;> simp [List.filterMap_cons, Item.format?]
  · rw [← List.length_filterMap_eq_countP, h.filterMap_path?_append]
    cases command <;> simp [commandFiles]
  · rw [h.count_quiet_append]
    exact Bool.toNat_le quiet

theorem Body.valid (h : Body command body)
    (hfiles : ∀ f ∈ commandFiles command ++ config?.toList, IsFile f) :
    ∀ i ∈ body ++ globals config? n quiet, i.Valid := by
  intro i hi f hf
  rw [Item.file?, Option.mem_def, Option.or_eq_some_iff] at hf
  rcases hf with hf | ⟨-, hf⟩
  · have hmem : f ∈ config?.toList := by
      rw [← h.filterMap_config?_append]
      exact List.mem_filterMap.2 ⟨i, hi, hf⟩
    exact hfiles f (List.mem_append_right _ hmem)
  · have hmem : f ∈ commandFiles command := by
      rw [← h.filterMap_path?_append]
      exact List.mem_filterMap.2 ⟨i, hi, hf⟩
    exact hfiles f (List.mem_append_left _ hmem)

theorem readCommand_lint {args : List String} {g : Given} {path : String}
    (hread : readLevel .lint args = .ok g) (hpath : g.path? = some path) :
    readCommand "lint" args = .ok (.lint path (g.format?.getD .text), g) := by
  simp only [readCommand, if_true, hread, bind, Except.bind, hpath]
  rfl

theorem Body.readCommand (h : Body command body) {after others : List Item} {args : List String}
    (hafter : after.Perm (body ++ others)) (hothers : ∀ i ∈ others, i.isGlobal)
    (hread : readLevel (commandLevel command) args = .ok (.ofItems after)) :
    readCommand (commandName command) args = .ok (command, .ofItems after) := by
  have hpath := filterMap_path?_of_isGlobal hothers
  have hformat := filterMap_format?_of_isGlobal hothers
  cases h with
  | lint path f =>
    have hp : after.findSome? Item.path? = some path :=
      findSome?_of_perm hafter (by rw [List.filterMap_append, hpath]; rfl)
    have hf : after.findSome? Item.format? = some f :=
      findSome?_of_perm hafter (by rw [List.filterMap_append, hformat]; rfl)
    rw [commandName, readCommand_lint hread hp, Given.ofItems, hf, Option.getD_some]
  | lintText path =>
    have hp : after.findSome? Item.path? = some path :=
      findSome?_of_perm hafter (by rw [List.filterMap_append, hpath]; rfl)
    have hf : after.findSome? Item.format? = none :=
      findSome?_of_perm hafter (by rw [List.filterMap_append, hformat]; rfl)
    rw [commandName, readCommand_lint hread hp, Given.ofItems, hf, Option.getD_none]
  | check =>
    have hread : readLevel .plain args = .ok (.ofItems after) := hread
    simp [CommandLine.readCommand, commandName, hread, bind, Except.bind, pure, Except.pure]
  | which =>
    have hread : readLevel .plain args = .ok (.ofItems after) := hread
    simp [CommandLine.readCommand, commandName, hread, bind, Except.bind, pure, Except.pure]

/-! ### Both levels -/

variable {before after items : List Item} {front : Item → Bool} {as bs : List String}

theorem isGlobal_of_mem_filter {p : Item → Bool} :
    ∀ i ∈ (globals config? n quiet).filter p, i.isGlobal := by
  intro i hi
  exact isGlobal_of_mem_globals (List.mem_filter.1 hi).1

theorem perm_sides (hbefore : before.Perm ((globals config? n quiet).filter front))
    (hafter : after.Perm (body ++ (globals config? n quiet).filter (! front ·))) :
    (after ++ before).Perm (body ++ globals config? n quiet) := by
  refine (hafter.append hbefore).trans ?_
  rw [List.append_assoc]
  exact (List.perm_append_comm.trans (List.filter_append_perm front _)).append_left body

theorem Body.count_verbose (h : Body command body)
    (hbefore : before.Perm ((globals config? n quiet).filter front))
    (hafter : after.Perm (body ++ (globals config? n quiet).filter (! front ·))) :
    before.count .verbose = n ∧ after.count .verbose = 0 ∨
      before.count .verbose = 0 ∧ after.count .verbose = n := by
  have hbody : body.count .verbose = 0 := h.count_flag .verbose
  have hsides := count_sides front .verbose (globals config? n quiet)
  rw [hbefore.count_eq, hafter.count_eq, List.count_append, hbody, Nat.zero_add]
  rwa [count_verbose_globals] at hsides

theorem Body.contains_quiet (h : Body command body)
    (hitems : items.Perm (body ++ globals config? n quiet)) : items.contains .quiet = quiet := by
  have hcount : items.count .quiet = quiet.toNat := by
    rw [hitems.count_eq, h.count_quiet_append]
  cases quiet with
  | true => simpa using List.count_pos_iff.1 (by rw [hcount]; decide)
  | false => simpa using List.count_eq_zero.1 hcount

/-- The two levels are read apart, each as the items on its side. -/
theorem Body.read (h : Body command body)
    (hfiles : ∀ f ∈ commandFiles command ++ config?.toList, IsFile f)
    (hbefore : before.Perm ((globals config? n quiet).filter front))
    (hafter : after.Perm (body ++ (globals config? n quiet).filter (! front ·)))
    (has : Spells before as) (hbs : Spells after bs) :
    read (as ++ commandName command :: bs) =
      .ok (merge command (.ofItems before) (.ofItems after)) := by
  have hall := perm_sides hbefore hafter
  have honce : Once (after ++ before) := h.once.of_subperm hall.subperm
  have hvalid : ∀ i ∈ after ++ before, i.Valid :=
    fun i hi => h.valid hfiles i (hall.mem_iff.1 hi)
  obtain ⟨hvalid_after, hvalid_before⟩ := List.forall_mem_append.1 hvalid
  have hglobal : ∀ i ∈ before, i.isGlobal :=
    fun i hi => isGlobal_of_mem_filter i (hbefore.mem_iff.1 hi)
  have htakes : ∀ i ∈ after, (commandLevel command).Takes i := by
    intro i hi
    rcases List.mem_append.1 (hafter.mem_iff.1 hi) with hi | hi
    · exact h.takes i hi
    · exact .inl (isGlobal_of_mem_filter i hi)
  obtain ⟨outer, houter, htop⟩ := readTop_of_spells has honce.right hglobal hvalid_before
    (isCommandName_commandName command) bs
  have hinner := h.readCommand hafter isGlobal_of_mem_filter
    (readLevel_of_spells hbs honce.left htakes hvalid_after)
  have hsettle : outer.settle = .ok (.ofItems before) := houter
  simp only [CommandLine.read, htop, hinner, hsettle, bind, Except.bind]
  rfl

end

/-- Every command has command lines, and each of them is read as that command with its options: the
sides, the order and the forms do not matter, and the verbose flags count to 255. -/
theorem read_renders (command : Command) (config? : Option String) (n : Nat) (quiet : Bool)
    (hfiles : ∀ f ∈ commandFiles command ++ config?.toList, IsFile f) :
    (∃ args, Renders command config? n quiet args) ∧
      ∀ args, Renders command config? n quiet args →
        read args = .ok ⟨command, config?, min n 255, quiet⟩ := by
  refine ⟨exists_renders command config? n quiet, ?_⟩
  rintro _ ⟨front, hbody, hbefore, hafter, has, hbs⟩
  have hall := perm_sides hbefore hafter
  have hconfig := findSome?_of_perm hall hbody.filterMap_config?_append
  have hquiet := hbody.contains_quiet hall
  rw [hbody.read hfiles hbefore hafter has hbs,
    merge_ofItems (hbody.count_verbose hbefore hafter), hconfig, hquiet]

/-- Files may be called what commands are. -/
theorem read_renders_alike :
    Renders (.lint "check" .text) (some "lint") 3 true
        ["-vvc", "lint", "--verbose", "lint", "-q", "check"] ∧
      read ["-vvc", "lint", "--verbose", "lint", "-q", "check"] =
        .ok ⟨.lint "check" .text, some "lint", 3, true⟩ := by
  have hbefore : Spells [.verbose, .verbose, .config "lint", .verbose]
      ["-vvc", "lint", "--verbose"] :=
    .cons (.lettersValue [.verbose, .verbose] "lint") (.cons (.flag .verbose) .nil)
  have hafter : Spells [.quiet, .path "check"] ["-q", "check"] :=
    .cons (@Piece.letters [.quiet] (by decide)) (.cons (.path "check") .nil)
  have hrenders : Renders (.lint "check" .text) (some "lint") 3 true
      ["-vvc", "lint", "--verbose", "lint", "-q", "check"] :=
    .intro (· ≠ .quiet) (.lintText "check") (by decide) (by decide) hbefore hafter
  exact ⟨hrenders, (read_renders _ _ _ _ (by decide)).2 _ hrenders⟩

end DockLint.CommandLine

import Mathlib.Tactic.ByContra
import DockLint.Proofs.Exchange.Bytes

/-!
# A process is never left waiting

`State.Blocks` is right about what a process has to wait for (`exists_answers_iff`). The program can
bring that about in one step (`State.Inv.exists_answers_of_blocks`), and once the process has ended
the program comes to its end alone: it has a step to take until it has returned
(`State.Inv.final_iff`), and each one leaves it less to do (`ParentStep.toDo_lt`).
`exchange_complete` puts this beside what a run has collected by then.
-/

namespace DockLint.Exchange

variable {σ : Type} {b : Behavior σ} {c : Capacities} {payload : List UInt8} {s s' : State σ}
variable {r : Request σ}

theorem ParentStep.life_eq (h : ParentStep s s') : s'.life = s.life := by
  rcases h with hw | hc
  · cases hw <;> rfl
  · cases hc <;> rfl

/-! ### Waiting -/

theorem Answers.not_blocks (h : Answers s r s') : ¬ s.Blocks r := by
  cases h with
  | read n most most_pos next hreadable hn hmost hheld =>
    rintro ⟨-, hnil, -⟩
    rw [hnil, List.length_nil] at hheld
    omega
  | readEnd most most_pos next hreadable hheld hfed =>
    rintro ⟨-, -, hopen⟩
    exact hfed hopen
  | readClosed most most_pos next hreadable =>
    rintro ⟨hopen, -⟩
    simp [hreadable] at hopen
  | write n stream bytes bytes_ne next hwritable hn hbytes hroom =>
    rintro ⟨-, hfull⟩
    omega
  | writeClosed stream bytes bytes_ne next hwritable =>
    rintro ⟨hopen, -⟩
    simp [hwritable] at hopen
  | closeInput | closeOutput | exit | compute => exact id

theorem exists_answers (h : ¬ s.Blocks r) : ∃ s', Answers s r s' := by
  cases r with
  | read most most_pos next =>
    by_cases hreadable : s.inlet.readable = true
    · by_cases hheld : s.inlet.held = []
      · exact ⟨_, .readEnd most most_pos next hreadable hheld fun hfed =>
          h ⟨hreadable, hheld, hfed⟩⟩
      · exact ⟨_, .read 1 most most_pos next hreadable Nat.one_pos most_pos
          (List.length_pos_iff.2 hheld)⟩
    · exact ⟨_, .readClosed most most_pos next (Bool.eq_false_iff.2 hreadable)⟩
  | write stream bytes bytes_ne next =>
    by_cases hwritable : (s.outlet stream).writable = true
    · have hroom : (s.outlet stream).room ≠ 0 := fun hfull => h ⟨hwritable, hfull⟩
      exact ⟨_, .write 1 stream bytes bytes_ne next hwritable Nat.one_pos
        (List.length_pos_iff.2 bytes_ne) (Nat.pos_of_ne_zero hroom)⟩
    · exact ⟨_, .writeClosed stream bytes bytes_ne next (Bool.eq_false_iff.2 hwritable)⟩
  | closeInput next => exact ⟨_, .closeInput next⟩
  | closeOutput stream next => exact ⟨_, .closeOutput stream next⟩
  | exit code => exact ⟨_, .exit code⟩
  | compute next => exact ⟨_, .compute next⟩

theorem exists_answers_iff : (∃ s', Answers s r s') ↔ ¬ s.Blocks r :=
  ⟨fun ⟨_, h⟩ => h.not_blocks, exists_answers⟩

/-- An empty pipe to the process gets a byte or is closed. -/
theorem exists_writerStep (hfed : s.inlet.fed = none) (hreadable : s.inlet.readable = true)
    (hheld : s.inlet.held = []) :
    ∃ s', WriterStep s s' ∧ (s'.inlet.held ≠ [] ∨ s'.inlet.fed ≠ none) := by
  by_cases hpending : s.inlet.pending = []
  · exact ⟨_, .whole hfed hpending, .inr (by simp [Inlet.finish])⟩
  · have hlength := List.length_pos_iff.2 hpending
    have hroom : 1 ≤ s.inlet.room := by
      rw [Inlet.room, hheld]
      exact s.inlet.capacity_pos
    refine ⟨_, .push 1 hfed hreadable Nat.one_pos hlength hroom, .inl ?_⟩
    simp [Inlet.push, hpending]

/-- A full pipe from the process gets room. -/
theorem exists_collectorStep {stream : Stream} (hc : s.collector = .draining)
    (hfull : (s.outlet stream).room = 0) :
    ∃ s', CollectorStep s s' ∧ (s'.outlet stream).room ≠ 0 := by
  have hpos := (s.outlet stream).capacity_pos
  rw [Outlet.room] at hfull
  refine ⟨_, .drain stream (s.outlet stream).held.length hc (by omega) (Nat.le_refl _), ?_⟩
  simp only [State.setOutlet, if_true, Outlet.room, Outlet.drain, List.drop_length, List.length_nil]
  omega

/-- Whatever a process waits for, the program can bring it about in one step. -/
theorem State.Inv.exists_answers_of_blocks (h : s.Inv payload) {a : σ} (hlife : s.life = .running a)
    (hblocks : s.Blocks r) : ∃ s' s'', ParentStep s s' ∧ Answers s' r s'' := by
  cases r with
  | read most most_pos next =>
    obtain ⟨hreadable, hheld, hfed⟩ := hblocks
    obtain ⟨s', hs, hopen⟩ := exists_writerStep hfed hreadable hheld
    obtain ⟨s'', hanswer⟩ : ∃ s'', Answers s' (.read most most_pos next) s'' := by
      refine exists_answers ?_
      rintro ⟨-, hnil, hnone⟩
      rcases hopen with hne | hne
      · exact hne hnil
      · exact hne hnone
    exact ⟨s', s'', .writer hs, hanswer⟩
  | write stream bytes bytes_ne next =>
    obtain ⟨s', hs, hroom⟩ := exists_collectorStep (h.draining hlife) hblocks.2
    obtain ⟨s'', hanswer⟩ : ∃ s'', Answers s' (.write stream bytes bytes_ne next) s'' :=
      exists_answers fun hfull => hroom hfull.2
    exact ⟨s', s'', .collector hs, hanswer⟩
  | closeInput | closeOutput | exit | compute => exact hblocks.elim

/-! ### The end -/

/-- A run that cannot go on. -/
def State.Final (b : Behavior σ) (s : State σ) : Prop :=
  ∀ s', ¬ Step b s s'

/-- A process that is running always lets the run go on. -/
theorem State.Inv.exists_step_of_running (h : s.Inv payload) {a : σ} (hlife : s.life = .running a) :
    ∃ s', Step b s s' := by
  obtain ⟨r, hasks⟩ := b.exists_asks a
  by_cases hblocks : s.Blocks r
  · obtain ⟨s', -, hs, -⟩ := h.exists_answers_of_blocks hlife hblocks
    exact ⟨s', .parent hs⟩
  · obtain ⟨s', hanswer⟩ := exists_answers hblocks
    exact ⟨s', .process ⟨a, r, hlife, hasks, hanswer⟩⟩

/-- Once the process has ended, the program has a step to take until it has returned. -/
theorem State.Inv.exists_parentStep_of_ended (h : s.Inv payload) {exit : Option Int}
    (hlife : s.life = .ended exit) (hreturned : ∀ result, s.collector ≠ .returned result) :
    ∃ s', ParentStep s s' := by
  obtain ⟨hreadable, hwritable⟩ := h.ended exit hlife
  -- The writer comes first, as the collector cannot return before it has ended.
  cases hfed : s.inlet.fed with
  | none =>
    by_cases hpending : s.inlet.pending = []
    · exact ⟨_, .writer (.whole hfed hpending)⟩
    · exact ⟨_, .writer (.broken hfed hpending hreadable)⟩
  | some f =>
    cases hc : s.collector with
    | returned result => exact absurd hc (hreturned result)
    | reaped exit' => exact ⟨_, .collector (.join exit' f hc hfed)⟩
    | draining =>
      by_cases hdrained : ∀ stream, (s.outlet stream).drained = true
      · exact ⟨_, .collector (.reap exit hc hdrained hlife)⟩
      · obtain ⟨stream, hopen⟩ := not_forall.1 hdrained
        by_cases hheld : (s.outlet stream).held = []
        · exact ⟨_, .collector (.finish stream hc (Bool.eq_false_iff.2 hopen) hheld
            (hwritable stream))⟩
        · exact ⟨_, .collector (.drain stream 1 hc Nat.one_pos (List.length_pos_iff.2 hheld))⟩

theorem CollectorStep.not_returned (hs : CollectorStep s s') (result : Except String Completion) :
    s.collector ≠ .returned result := by
  intro hc
  cases hs <;> simp_all

/-- A run stops when the program has what the process left, and no sooner. -/
theorem State.Inv.final_iff (h : s.Inv payload) :
    s.Final b ↔ ∃ result, s.collector = .returned result := by
  constructor
  · intro hfinal
    by_contra hreturned
    cases hlife : s.life with
    | running a =>
      obtain ⟨s', hs⟩ := h.exists_step_of_running (b := b) hlife
      exact hfinal s' hs
    | ended exit =>
      obtain ⟨s', hs⟩ := h.exists_parentStep_of_ended hlife (not_exists.1 hreturned)
      exact hfinal s' (.parent hs)
  · rintro ⟨result, hc⟩ s' hs
    obtain ⟨exit, f, ⟨hlife, -⟩, hfed, -⟩ := h.returned result hc
    rcases hs with ⟨hw | hcol⟩ | ⟨a, r, hrunning, -, -⟩
    · rw [hw.fed_eq] at hfed
      cases hfed
    · exact hcol.not_returned result hc
    · rw [hlife] at hrunning
      cases hrunning

/-! ### What is left to do -/

def Outlet.toDo (o : Outlet) : Nat :=
  o.held.length + (if o.drained then 0 else 1)

def Inlet.toDo (i : Inlet) : Nat :=
  i.pending.length + (if i.fed = none then 1 else 0)

def Collector.toDo : Collector → Nat
  | .draining => 2
  | .reaped _ => 1
  | .returned _ => 0

/-- More than the steps that the program can take while the process takes none. -/
def State.toDo (s : State σ) : Nat :=
  s.inlet.toDo + (s.outlet .out).toDo + (s.outlet .err).toDo + s.collector.toDo

theorem State.toDo_setOutlet_lt {stream : Stream} {o : Outlet}
    (h : o.toDo < (s.outlet stream).toDo) : (s.setOutlet stream o).toDo < s.toDo := by
  cases stream <;> simp only [State.toDo, State.setOutlet] <;> simp <;> omega

theorem ParentStep.toDo_lt (h : ParentStep s s') : s'.toDo < s.toDo := by
  rcases h with hw | hc
  · cases hw with
    | push n hfed hreadable hn hpending hroom =>
      simp only [State.toDo, Inlet.toDo, Inlet.push, List.length_drop, hfed, if_true]
      omega
    | whole hfed | broken hfed =>
      simp only [State.toDo, Inlet.toDo, Inlet.finish, hfed, reduceCtorEq, if_true, if_false]
      omega
  · cases hc with
    | drain stream n hc hn hheld =>
      apply State.toDo_setOutlet_lt
      have hlt : ((s.outlet stream).held.drop n).length < (s.outlet stream).held.length := by
        rw [List.length_drop]
        omega
      exact Nat.add_lt_add_right hlt _
    | finish stream hc hdrained hheld hwritable =>
      apply State.toDo_setOutlet_lt
      simp [Outlet.toDo, Outlet.finish, hdrained]
    | reap exit hc | join exit f hc =>
      simp only [State.toDo, Collector.toDo, hc]
      omega

theorem Step.life_of_ended (h : Step b s s') {exit : Option Int} (hlife : s.life = .ended exit) :
    ParentStep s s' ∧ s'.life = .ended exit := by
  rcases h with hp | ⟨a, r, hrunning, -, -⟩
  · exact ⟨hp, hp.life_eq.trans hlife⟩
  · simp [hlife] at hrunning

/-- Whatever order the steps come in, a run whose process has ended comes to its own end. -/
theorem not_forall_step (f : Nat → State σ) {exit : Option Int} (hlife : (f 0).life = .ended exit) :
    ¬ ∀ n, Step b (f n) (f (n + 1)) := by
  intro hstep
  have hended (n : Nat) : (f n).life = .ended exit := by
    induction n with
    | zero => exact hlife
    | succ n ih => exact ((hstep n).life_of_ended ih).2
  have hbound (n : Nat) : (f n).toDo + n ≤ (f 0).toDo := by
    induction n with
    | zero => exact Nat.le_refl _
    | succ n ih =>
      have hlt := ((hstep n).life_of_ended (hended n)).1.toDo_lt
      omega
  have hlast := hbound ((f 0).toDo + 1)
  omega

/-! ### The exchange -/

/-- In whatever order the three take their steps, a process that waits is one step of the program
away from its answer, and a run that stops has returned everything that the process printed. It does
stop once the process has ended. -/
theorem exchange_complete (h : Reaches b c payload s) :
    (∀ a r, s.life = .running a → b.Asks a r → s.Blocks r →
      ∃ s' s'', ParentStep s s' ∧ ProcessStep b s' s'') ∧
    (s.Final b → ∃ exit, s.life = .ended exit ∧
      s.collector = .returned (.ok ⟨exit, (s.outlet .out).written, (s.outlet .err).written⟩) ∧
      s.inlet.taken <+: payload ∧ (s.inlet.exhausted = true → s.inlet.taken = payload)) ∧
    (∀ exit, s.life = .ended exit → ∀ f : Nat → State σ, f 0 = s →
      ¬ ∀ n, Step b (f n) (f (n + 1))) := by
  have hinv := inv_of_reaches h
  refine ⟨fun a r hlife hasks hblocks => ?_, fun hfinal => ?_, fun exit hlife f hf => ?_⟩
  · obtain ⟨s', s'', hs, hanswer⟩ := hinv.exists_answers_of_blocks hlife hblocks
    exact ⟨s', s'', hs, a, r, hs.life_eq.trans hlife, hasks, hanswer⟩
  · obtain ⟨result, hc⟩ := hinv.final_iff.1 hfinal
    obtain ⟨exit, hlife, rfl⟩ := hinv.result_eq hc
    exact ⟨exit, hlife, hc, hinv.inlet.taken_prefix, hinv.inlet.taken_eq⟩
  · subst hf
    exact not_forall_step f hlife

inductive Head where
  | reading
  | printing (byte : UInt8)
  | ending

/-- What it does with the answer to its one question. -/
def Head.hear : Option (List UInt8) → Head
  | some (byte :: _) => printing byte
  | some [] | none => ending

/-- Prints the first byte of its input and ends with the code 3. -/
def head : Behavior Head where
  start := .reading
  Asks
    | .reading, r => r = .read 1 Nat.one_pos Head.hear
    | .printing byte, r => r = .write .out [byte] (List.cons_ne_nil _ _) fun _ => .ending
    | .ending, r => r = .exit (some 3)
  exists_asks a := by cases a <;> exact ⟨_, rfl⟩

def narrow : Capacities := ⟨1, fun _ => 1, Nat.one_pos, fun _ => Nat.one_pos⟩

/-- Two bytes are left over, one of them in the pipe. -/
def headEnd : State Head where
  inlet := ⟨1, [3], [2], some .broken, false, [1], false, Nat.one_pos⟩
  outlet
    | .out => ⟨1, [], false, [1], [1], true, Nat.one_pos⟩
    | .err => ⟨1, [], false, [], [], true, Nat.one_pos⟩
  life := .ended (some 3)
  collector := .returned (.ok ⟨some 3, [1], []⟩)

theorem Stream.forall_of {P : Stream → Prop} (hout : P .out) (herr : P .err) (stream : Stream) :
    P stream := by
  cases stream
  · exact hout
  · exact herr

theorem State.eq_of_outlets {s t : State σ} (hinlet : s.inlet = t.inlet)
    (hout : s.outlet .out = t.outlet .out) (herr : s.outlet .err = t.outlet .err)
    (hlife : s.life = t.life) (hcollector : s.collector = t.collector) : s = t := by
  obtain ⟨inlet, outlet, life, collector⟩ := s
  obtain ⟨inlet', outlet', life', collector'⟩ := t
  simp only [State.mk.injEq]
  exact ⟨hinlet, funext (Stream.forall_of hout herr), hlife, hcollector⟩

theorem reaches_headEnd : Reaches head narrow [1, 2, 3] headEnd := by
  have hsame {s t : State Head} (h : s = t) : Relation.ReflTransGen (Step head) s t := h ▸ .refl
  refine .head (.parent (.writer (.push 1 rfl rfl (by decide) (by decide) (by decide)))) ?_
  refine .head (.process ⟨_, _, rfl, rfl, .read 1 _ _ _ rfl (by decide) (by decide) (by decide)⟩) ?_
  refine .head (.parent (.writer (.push 1 rfl rfl (by decide) (by decide) (by decide)))) ?_
  refine .head (.process ⟨_, _, rfl, rfl, .write 1 _ _ _ _ rfl (by decide) (by decide) (by decide)⟩)
    ?_
  refine .head (.process ⟨_, _, rfl, rfl, .exit _⟩) ?_
  refine .head (.parent (.writer (.broken rfl (by decide) rfl))) ?_
  refine .head (.parent (.collector (.drain .out 1 rfl (by decide) (by decide)))) ?_
  refine .head (.parent (.collector (.finish .out rfl rfl rfl rfl))) ?_
  refine .head (.parent (.collector (.finish .err rfl rfl rfl rfl))) ?_
  refine .head (.parent (.collector (.reap (some 3) rfl (Stream.forall_of rfl rfl) rfl))) ?_
  refine .head (.parent (.collector (.join (some 3) .broken rfl rfl))) ?_
  exact hsame (State.eq_of_outlets rfl rfl rfl rfl rfl)

/-- It waits for its input at first, and it leaves two bytes in the end. -/
theorem exchange_complete_head :
    (launched head narrow [1, 2, 3]).Blocks (.read 1 Nat.one_pos Head.hear) ∧
    (∃ s' s'', ParentStep (launched head narrow [1, 2, 3]) s' ∧ ProcessStep head s' s'') ∧
    Reaches head narrow [1, 2, 3] headEnd ∧ headEnd.Final head ∧
    headEnd.collector = .returned (.ok ⟨some 3, [1], []⟩) ∧ headEnd.inlet.taken = [1] := by
  have hfinal : headEnd.Final head := (inv_of_reaches reaches_headEnd).final_iff.2 ⟨_, rfl⟩
  obtain ⟨exit, hlife, hreturned, -⟩ := (exchange_complete reaches_headEnd).2.1 hfinal
  obtain rfl : some 3 = exit := Life.ended.inj hlife
  exact ⟨⟨rfl, rfl, rfl⟩, (exchange_complete .refl).1 .reading _ rfl rfl ⟨rfl, rfl, rfl⟩,
    reaches_headEnd, hfinal, hreturned, rfl⟩

end DockLint.Exchange

import Mathlib.Logic.Relation
import DockLint.Exchange

/-!
# No byte is lost between a process and the program

Bytes leave a pipe in the order in which they came into it, and only what is pushed or written comes
into it: `Inlet.Inv` and `Outlet.Inv`, each kept by whatever is done to the pipe. `State.Inv` adds
what is known of the rest once the process or the collector has ended, and holds in every state that
a run reaches (`inv_of_reaches`).
-/

namespace DockLint.Exchange

/-! ### The input -/

structure Inlet.Inv (payload : List UInt8) (i : Inlet) : Prop where
  bytes : i.taken ++ (i.held ++ i.pending) = payload
  fits : i.held.length ≤ i.capacity
  fed : ∀ f, i.fed = some f → f = .whole ∧ i.pending = [] ∨ f = .broken ∧ i.readable = false
  exhausted : i.exhausted = true → i.held = [] ∧ i.pending = []

namespace Inlet.Inv

variable {payload : List UInt8} {i : Inlet} {n : Nat} {f : Fed}

theorem push (h : i.Inv payload) (hfed : i.fed = none) (hroom : n ≤ i.room) :
    (i.push n).Inv payload where
  bytes := by
    rw [← h.bytes]
    simp [Inlet.push]
  fits := by
    have hfits := h.fits
    rw [Inlet.room] at hroom
    simp only [Inlet.push, List.length_append, List.length_take]
    omega
  fed f hf := absurd (hfed.symm.trans hf) (by simp)
  exhausted he := by
    obtain ⟨hheld, hpending⟩ := h.exhausted he
    simp [Inlet.push, hheld, hpending]

theorem finish_whole (h : i.Inv payload) (hpending : i.pending = []) :
    (i.finish .whole).Inv payload :=
  ⟨h.bytes, h.fits, fun _ hf => .inl ⟨(Option.some.inj hf).symm, hpending⟩, h.exhausted⟩

theorem finish_broken (h : i.Inv payload) (hreadable : i.readable = false) :
    (i.finish .broken).Inv payload :=
  ⟨h.bytes, h.fits, fun _ hf => .inr ⟨(Option.some.inj hf).symm, hreadable⟩, h.exhausted⟩

theorem take (h : i.Inv payload) : (i.take n).Inv payload where
  bytes := by
    rw [← h.bytes]
    simp only [Inlet.take, List.append_assoc]
    rw [← List.append_assoc (i.held.take n), List.take_append_drop]
  fits := by
    have hfits := h.fits
    simp only [Inlet.take, List.length_drop]
    omega
  fed := h.fed
  exhausted he := by
    obtain ⟨hheld, hpending⟩ := h.exhausted he
    simp [Inlet.take, hheld, hpending]

/-- A process that can still read comes to the end of its input only behind a writer that has pushed
everything. -/
theorem exhaust (h : i.Inv payload) (hreadable : i.readable = true) (hheld : i.held = [])
    (hfed : i.fed ≠ none) : i.exhaust.Inv payload := by
  refine ⟨h.bytes, h.fits, h.fed, fun _ => ?_⟩
  obtain ⟨f, hf⟩ := Option.ne_none_iff_exists'.1 hfed
  rcases h.fed f hf with ⟨-, hpending⟩ | ⟨-, hclosed⟩
  · exact ⟨hheld, hpending⟩
  · rw [hreadable] at hclosed
    cases hclosed

theorem close (h : i.Inv payload) : i.close.Inv payload := by
  refine ⟨h.bytes, h.fits, fun f hf => ?_, h.exhausted⟩
  rcases h.fed f hf with hwhole | ⟨hbroken, -⟩
  · exact .inl hwhole
  · exact .inr ⟨hbroken, rfl⟩

theorem taken_prefix (h : i.Inv payload) : i.taken <+: payload :=
  ⟨_, h.bytes⟩

theorem taken_eq (h : i.Inv payload) (he : i.exhausted = true) : i.taken = payload := by
  obtain ⟨hheld, hpending⟩ := h.exhausted he
  have hbytes := h.bytes
  rwa [hheld, hpending, List.append_nil, List.append_nil] at hbytes

end Inlet.Inv

/-! ### The outputs -/

structure Outlet.Inv (o : Outlet) : Prop where
  bytes : o.collected ++ o.held = o.written
  drained : o.drained = true → o.held = [] ∧ o.writable = false

namespace Outlet.Inv

variable {o : Outlet} {n : Nat}

theorem accept (h : o.Inv) (hwritable : o.writable = true) (bytes : List UInt8) :
    (o.accept bytes).Inv where
  bytes := by
    rw [Outlet.accept, ← h.bytes, List.append_assoc]
  drained hd := by
    have hclosed := (h.drained hd).2
    rw [hwritable] at hclosed
    cases hclosed

theorem close (h : o.Inv) : o.close.Inv :=
  ⟨h.bytes, fun hd => ⟨(h.drained hd).1, rfl⟩⟩

theorem drain (h : o.Inv) : (o.drain n).Inv where
  bytes := by
    rw [Outlet.drain, ← h.bytes, List.append_assoc, List.take_append_drop]
  drained hd := by
    obtain ⟨hheld, hclosed⟩ := h.drained hd
    exact ⟨by rw [Outlet.drain, hheld, List.drop_nil], hclosed⟩

theorem finish (h : o.Inv) (hheld : o.held = []) (hclosed : o.writable = false) :
    o.finish.Inv :=
  ⟨h.bytes, fun _ => ⟨hheld, hclosed⟩⟩

theorem collected_eq (h : o.Inv) (hd : o.drained = true) : o.collected = o.written := by
  have hbytes := h.bytes
  rwa [(h.drained hd).1, List.append_nil] at hbytes

end Outlet.Inv

/-! ### The whole -/

variable {σ : Type} {b : Behavior σ} {payload : List UInt8} {s s' : State σ}

namespace State

/-- What is known once the collector has waited for the process. -/
def Reaped (s : State σ) (exit : Option Int) : Prop :=
  s.life = .ended exit ∧ ∀ stream, (s.outlet stream).drained = true

structure Inv (payload : List UInt8) (s : State σ) : Prop where
  inlet : s.inlet.Inv payload
  outlet : ∀ stream, (s.outlet stream).Inv
  ended : ∀ exit, s.life = .ended exit →
    s.inlet.readable = false ∧ ∀ stream, (s.outlet stream).writable = false
  reaped : ∀ exit, s.collector = .reaped exit → s.Reaped exit
  returned : ∀ result, s.collector = .returned result → ∃ exit f, s.Reaped exit ∧
    s.inlet.fed = some f ∧ result = f.result (s.completion exit)

theorem outlet_setOutlet {P : Outlet → Prop} {stream : Stream} {o : Outlet}
    (h : ∀ st, P (s.outlet st)) (ho : P o) (st : Stream) :
    P ((s.setOutlet stream o).outlet st) := by
  unfold setOutlet
  dsimp only
  split
  · exact ho
  · exact h st

/-- While the process is running, the collector is at its outputs. -/
theorem Inv.draining (h : s.Inv payload) {a : σ} (hlife : s.life = .running a) :
    s.collector = .draining := by
  have hrunning (exit : Option Int) : s.life ≠ .ended exit := by simp [hlife]
  cases hc : s.collector with
  | draining => rfl
  | reaped exit => exact absurd (h.reaped exit hc).1 (hrunning exit)
  | returned result =>
    obtain ⟨exit, -, hreaped, -⟩ := h.returned result hc
    exact absurd hreaped.1 (hrunning exit)

/-- A state whose collector is at the outputs of the process has no more to show than its pipes. -/
theorem Inv.of_draining (hinlet : s.inlet.Inv payload) (houtlet : ∀ st, (s.outlet st).Inv)
    (hended : ∀ exit, s.life = .ended exit →
      s.inlet.readable = false ∧ ∀ stream, (s.outlet stream).writable = false)
    (hc : s.collector = .draining) : s.Inv payload :=
  ⟨hinlet, houtlet, hended, fun exit hr => by simp [hc] at hr, fun result hr => by simp [hc] at hr⟩

/-- The same of a process that goes on. -/
theorem Inv.of_running {a : σ} (hinlet : s.inlet.Inv payload) (houtlet : ∀ st, (s.outlet st).Inv)
    (hlife : s.life = .running a) (hc : s.collector = .draining) : s.Inv payload :=
  of_draining hinlet houtlet (fun exit he => by simp [hlife] at he) hc

end State

theorem inv_launched (b : Behavior σ) (c : Capacities) (payload : List UInt8) :
    (launched b c payload).Inv payload := by
  refine .of_running ⟨rfl, Nat.zero_le _, ?_, ?_⟩ (fun st => ⟨rfl, ?_⟩) rfl rfl
  · intro f hf
    cases hf
  · intro he
    cases he
  · intro hd
    cases hd

theorem WriterStep.fed_eq (hs : WriterStep s s') : s.inlet.fed = none := by
  cases hs <;> assumption

theorem WriterStep.inv (h : s.Inv payload) (hs : WriterStep s s') : s'.Inv payload := by
  -- The writer is still at work, so the collector has not waited for it.
  have hreturned (result : Except String Completion) : s.collector ≠ .returned result := by
    intro hc
    obtain ⟨-, f, -, hf, -⟩ := h.returned result hc
    rw [hs.fed_eq] at hf
    cases hf
  cases hs with
  | push n hfed hreadable hn hpending hroom =>
    exact ⟨h.inlet.push hfed hroom, h.outlet, h.ended, h.reaped,
      fun result hc => absurd hc (hreturned result)⟩
  | whole hfed hpending =>
    exact ⟨h.inlet.finish_whole hpending, h.outlet, h.ended, h.reaped,
      fun result hc => absurd hc (hreturned result)⟩
  | broken hfed hpending hreadable =>
    exact ⟨h.inlet.finish_broken hreadable, h.outlet, h.ended, h.reaped,
      fun result hc => absurd hc (hreturned result)⟩

theorem CollectorStep.inv (h : s.Inv payload) (hs : CollectorStep s s') : s'.Inv payload := by
  cases hs with
  | drain stream n hc hn hheld =>
    refine .of_draining h.inlet (State.outlet_setOutlet h.outlet (h.outlet stream).drain) ?_ hc
    intro exit he
    obtain ⟨hreadable, hwritable⟩ := h.ended exit he
    exact ⟨hreadable, State.outlet_setOutlet (P := (·.writable = false)) hwritable
      (hwritable stream)⟩
  | finish stream hc hdrained hheld hwritable =>
    refine .of_draining h.inlet
      (State.outlet_setOutlet h.outlet ((h.outlet stream).finish hheld hwritable)) ?_ hc
    intro exit he
    obtain ⟨hreadable, hclosed⟩ := h.ended exit he
    exact ⟨hreadable, State.outlet_setOutlet (P := (·.writable = false)) hclosed hwritable⟩
  | reap exit hc hdrained hlife =>
    refine ⟨h.inlet, h.outlet, h.ended, fun exit' he => ?_, fun result hr => ?_⟩
    · cases he
      exact ⟨hlife, hdrained⟩
    · cases hr
  | join exit f hc hfed =>
    refine ⟨h.inlet, h.outlet, h.ended, fun exit' he => ?_, fun result hr => ?_⟩
    · cases he
    · cases hr
      exact ⟨exit, f, h.reaped exit hc, hfed, rfl⟩

theorem Answers.inv (h : s.Inv payload) {a : σ} {r : Request σ} (hlife : s.life = .running a)
    (hs : Answers s r s') : s'.Inv payload := by
  have hc := h.draining hlife
  cases hs with
  | read n most most_pos next hreadable hn hmost hheld =>
    exact .of_running h.inlet.take h.outlet rfl hc
  | readEnd most most_pos next hreadable hheld hfed =>
    exact .of_running (h.inlet.exhaust hreadable hheld hfed) h.outlet rfl hc
  | readClosed most most_pos next hreadable => exact .of_running h.inlet h.outlet rfl hc
  | write n stream bytes bytes_ne next hwritable hn hbytes hroom =>
    exact .of_running h.inlet
      (State.outlet_setOutlet h.outlet ((h.outlet stream).accept hwritable _)) rfl hc
  | writeClosed stream bytes bytes_ne next hwritable =>
    exact .of_running h.inlet h.outlet rfl hc
  | closeInput next => exact .of_running h.inlet.close h.outlet rfl hc
  | closeOutput stream next =>
    exact .of_running h.inlet (State.outlet_setOutlet h.outlet (h.outlet stream).close) rfl hc
  | exit code =>
    exact .of_draining h.inlet.close (fun st => (h.outlet st).close)
      (fun _ _ => ⟨rfl, fun _ => rfl⟩) hc
  | compute next => exact .of_running h.inlet h.outlet rfl hc

theorem Step.inv (h : s.Inv payload) (hs : Step b s s') : s'.Inv payload := by
  rcases hs with ⟨hw | hc⟩ | ⟨a, r, hlife, -, hanswer⟩
  · exact hw.inv h
  · exact hc.inv h
  · exact hanswer.inv h hlife

/-- A run of the process leads to the state. -/
def Reaches (b : Behavior σ) (c : Capacities) (payload : List UInt8) (s : State σ) : Prop :=
  Relation.ReflTransGen (Step b) (launched b c payload) s

theorem inv_of_reaches {c : Capacities} (h : Reaches b c payload s) : s.Inv payload := by
  induction h with
  | refl => exact inv_launched b c payload
  | tail _ hs ih => exact hs.inv ih

/-- Once the run has returned, everything that was printed has been collected, and the writer has
failed with nothing but a pipe that nobody reads. -/
theorem State.Inv.result_eq (h : s.Inv payload) {result : Except String Completion}
    (hr : s.collector = .returned result) : ∃ exit, s.life = .ended exit ∧
      result = .ok ⟨exit, (s.outlet .out).written, (s.outlet .err).written⟩ := by
  obtain ⟨exit, f, ⟨hlife, hdrained⟩, hf, rfl⟩ := h.returned result hr
  refine ⟨exit, hlife, ?_⟩
  rw [State.completion, (h.outlet .out).collected_eq (hdrained .out),
    (h.outlet .err).collected_eq (hdrained .err)]
  rcases h.inlet.fed f hf with ⟨rfl, -⟩ | ⟨rfl, -⟩ <;> rfl

end DockLint.Exchange

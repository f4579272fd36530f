import DockLint.Machine.Basic
import DockLint.Proofs.Exchange.Bytes

/-!
# A launch is an exchange that has returned

A machine hands a process its whole input at once and takes what it leaves (`Shell.Outcome`). Fed
and drained byte by byte and in any order, a process that leaves the same is launched with the same
result (`launch_eq`). `replay` is one: it reads and prints what the outcome says of it, and whatever
the order, its run returns what the machine says (`result_launch_replay`).
-/

namespace DockLint.Exchange

open Machine

section

variable {σ : Type} {b : Behavior σ} {c : Capacities} {payload : List UInt8} {s s' : State σ}

theorem Step.capacity_eq (h : Step b s s') : s'.inlet.capacity = s.inlet.capacity := by
  rcases h with ⟨hw | hc⟩ | ⟨a, r, -, -, hanswer⟩
  · cases hw <;> rfl
  · cases hc <;> rfl
  · cases hanswer <;> rfl

theorem capacity_eq_of_reaches (h : Reaches b c payload s) : s.inlet.capacity = c.input := by
  induction h with
  | refl => rfl
  | tail _ hs ih => exact hs.capacity_eq.trans ih

/-- A writer that got rid of everything has left no more than fits into the pipe. -/
theorem State.Inv.fed_of_unread (h : s.Inv payload) {f : Fed} (hfed : s.inlet.fed = some f)
    (hunread : s.inlet.taken.length + s.inlet.capacity < payload.length) : f = .broken := by
  rcases h.inlet.fed f hfed with ⟨-, hpending⟩ | ⟨hbroken, -⟩
  · have hbytes := congrArg List.length h.inlet.bytes
    have hfits := h.inlet.fits
    simp only [List.length_append, hpending, List.length_nil] at hbytes
    omega
  · exact hbroken

def exitOf (o : Shell.Outcome) : Option Int :=
  o.exit.map (↑·)

/-- In a run the process has done what `o` says of it. -/
structure Leaves (o : Shell.Outcome) (payload : List UInt8) (s : State σ) : Prop where
  exit : s.life = .ended (exitOf o)
  stdout : (s.outlet .out).written = o.stdout
  stderr : (s.outlet .err).written = o.stderr
  unread : s.inlet.taken.length + o.unread = payload.length

theorem result_of_leaves (h : Reaches b c payload s) {o : Shell.Outcome} (ho : Leaves o payload s)
    {result : Except String Completion} (hr : s.collector = .returned result) :
    result = .ok ⟨exitOf o, o.stdout, o.stderr⟩ := by
  obtain ⟨exit, hlife, rfl⟩ := (inv_of_reaches h).result_eq hr
  obtain rfl := Life.ended.inj (ho.exit.symm.trans hlife)
  rw [ho.stdout, ho.stderr]

theorem notes_of_leaves (hinv : s.Inv payload) {o : Shell.Outcome} (ho : Leaves o payload s)
    {f : Fed} (hfed : s.inlet.fed = some f) (hcapacity : s.inlet.capacity = pipeCapacity)
    (hprompt : f = .broken → pipeCapacity < o.unread) (note : Note) :
    (if o.unread > pipeCapacity then [note, .inputClosed (Fault.withNumber "Broken pipe" 32)]
      else [note]) = note :: f.notes := by
  have hunread := ho.unread
  by_cases hmore : pipeCapacity < o.unread
  · obtain rfl : f = .broken := hinv.fed_of_unread hfed (by omega)
    rw [if_pos hmore, Fed.notes]
  · rw [if_neg hmore]
    rcases hinv.inlet.fed f hfed with ⟨rfl, -⟩ | ⟨hbroken, -⟩
    · rfl
    · exact absurd (hprompt hbroken) hmore

/-- A machine whose pipes hold as much as those of a run says of a process with input what the run
comes to, if the writer gives up only on what does not fit. -/
theorem launch_eq (m : Machine) {call : Invocation} {p : Machine.Program}
    (hinput : call.input = some payload)
    (hp : m.tree.program m.searchPath call.program call.args = .ok p)
    (hc : c.input = pipeCapacity) (h : Reaches b c payload s)
    (ho : Leaves (Shell.start m.tree m.environment p (some payload)) payload s)
    {result : Except String Completion} (hr : s.collector = .returned result) {f : Fed}
    (hfed : s.inlet.fed = some f)
    (hprompt : f = .broken →
      pipeCapacity < (Shell.start m.tree m.environment p (some payload)).unread) :
    m.launch call = ⟨.running call.program call.args :: f.notes, result⟩ := by
  obtain rfl := result_of_leaves h ho hr
  have hnotes := notes_of_leaves (inv_of_reaches h) ho hfed ((capacity_eq_of_reaches h).trans hc)
    hprompt (.running call.program call.args)
  simp only [Machine.launch, hp, hinput, hnotes, exitOf]

end

/-! ### A process that does what is said of it -/

/-- How far the process has come: so much is left to read, or so much to print. -/
inductive Replay where
  | reading (left : Nat)
  | printing (out err : List UInt8)

def replay (o : Shell.Outcome) (payload : List UInt8) : Behavior Replay where
  start := .reading (payload.length - o.unread)
  Asks
    | .reading 0, r => r = .compute (.printing o.stdout o.stderr)
    | .reading (n + 1), r => r = .read (n + 1) n.succ_pos fun answer =>
        .reading (n + 1 - (answer.getD []).length)
    | .printing (x :: out) err, r => r = .write .out (x :: out) (List.cons_ne_nil x out) fun k =>
        .printing ((x :: out).drop k) err
    | .printing [] (x :: err), r => r = .write .err (x :: err) (List.cons_ne_nil x err) fun k =>
        .printing [] ((x :: err).drop k)
    | .printing [] [], r => r = .exit (exitOf o)
  exists_asks
    | .reading 0 | .reading (_ + 1) | .printing (_ :: _) _ | .printing [] (_ :: _)
    | .printing [] [] => ⟨_, rfl⟩

variable {o : Shell.Outcome} {c : Capacities} {payload : List UInt8} {s s' : State Replay}

/-- What has been read and printed makes up, with what is left, what the outcome says. -/
def Done (o : Shell.Outcome) (payload taken out err : List UInt8) : Life Replay → Prop
  | .running (.reading left) =>
    taken.length + left + o.unread = payload.length ∧ out = [] ∧ err = []
  | .running (.printing moreOut moreErr) =>
    taken.length + o.unread = payload.length ∧ out ++ moreOut = o.stdout ∧ err ++ moreErr = o.stderr
  | .ended exit => exit = exitOf o ∧
    taken.length + o.unread = payload.length ∧ out = o.stdout ∧ err = o.stderr

def Follows (o : Shell.Outcome) (payload : List UInt8) (s : State Replay) : Prop :=
  Done o payload s.inlet.taken (s.outlet .out).written (s.outlet .err).written s.life

theorem Follows.leaves (h : Follows o payload s) {exit : Option Int}
    (hlife : s.life = .ended exit) : Leaves o payload s := by
  rw [Follows, hlife] at h
  obtain ⟨rfl, hunread, hout, herr⟩ := h
  exact ⟨hlife, hout, herr, hunread⟩

theorem written_setOutlet {σ : Type} {s : State σ} {stream : Stream} {x : Outlet}
    (hx : x.written = (s.outlet stream).written) (st : Stream) :
    ((s.setOutlet stream x).outlet st).written = (s.outlet st).written := by
  unfold State.setOutlet
  dsimp only
  split
  · rename_i he
    rw [he, hx]
  · rfl

/-- The steps of the program leave alone what the process has done. -/
theorem ParentStep.follows (h : Follows o payload s) (hs : ParentStep s s') :
    Follows o payload s' := by
  rcases hs with hw | hc
  · cases hw <;> exact h
  · cases hc with
    | drain stream n | finish stream =>
      -- What is drained has been written before.
      unfold Follows
      rw [written_setOutlet (by rfl), written_setOutlet (by rfl)]
      exact h
    | reap | join => exact h

theorem ProcessStep.follows (h : Follows o payload s) (hs : ProcessStep (replay o payload) s s') :
    Follows o payload s' := by
  obtain ⟨a, r, hlife, hasks, hanswer⟩ := hs
  rw [Follows, hlife] at h
  cases a with
  | reading left =>
    obtain ⟨hread, hout, herr⟩ := h
    cases left with
    | zero =>
      obtain rfl : r = .compute (.printing o.stdout o.stderr) := hasks
      cases hanswer
      exact ⟨hread, by simp [hout], by simp [herr]⟩
    | succ left =>
      obtain rfl : r = .read (left + 1) left.succ_pos _ := hasks
      cases hanswer with
      | read n most most_pos next hreadable hn hmost hheld =>
        refine ⟨?_, hout, herr⟩
        simp only [Inlet.take, List.length_append, List.length_take, Option.getD_some]
        omega
      | readEnd => exact ⟨hread, hout, herr⟩
      | readClosed => exact ⟨hread, hout, herr⟩
  | printing out err =>
    obtain ⟨hread, hout, herr⟩ := h
    cases out with
    | cons x out =>
      obtain rfl : r = .write .out (x :: out) (List.cons_ne_nil x out) _ := hasks
      cases hanswer with
      | write n stream bytes bytes_ne next hwritable hn hbytes hroom =>
        refine ⟨hread, ?_, herr⟩
        show ((s.outlet .out).written ++ (x :: out).take n) ++ (x :: out).drop n = o.stdout
        rw [List.append_assoc, List.take_append_drop, hout]
      | writeClosed => exact ⟨hread, hout, herr⟩
    | nil =>
      cases err with
      | cons x err =>
        obtain rfl : r = .write .err (x :: err) (List.cons_ne_nil x err) _ := hasks
        cases hanswer with
        | write n stream bytes bytes_ne next hwritable hn hbytes hroom =>
          refine ⟨hread, hout, ?_⟩
          show ((s.outlet .err).written ++ (x :: err).take n) ++ (x :: err).drop n = o.stderr
          rw [List.append_assoc, List.take_append_drop, herr]
        | writeClosed => exact ⟨hread, hout, herr⟩
      | nil =>
        obtain rfl : r = .exit (exitOf o) := hasks
        cases hanswer
        rw [List.append_nil] at hout herr
        exact ⟨rfl, hread, hout, herr⟩

theorem follows_of_reaches (hunread : o.unread ≤ payload.length)
    (h : Reaches (replay o payload) c payload s) : Follows o payload s := by
  induction h with
  | refl =>
    refine ⟨?_, rfl, rfl⟩
    show 0 + (payload.length - o.unread) + o.unread = payload.length
    omega
  | tail _ hs ih =>
    rcases hs with hp | hp
    · exact hp.follows ih
    · exact hp.follows ih

/-- In whatever order it is fed and drained, such a process comes to what the machine says of the
launch. -/
theorem result_launch_replay (m : Machine) {call : Invocation} {p : Machine.Program}
    (hinput : call.input = some payload)
    (hp : m.tree.program m.searchPath call.program call.args = .ok p)
    (ho : Shell.start m.tree m.environment p (some payload) = o)
    (hunread : o.unread ≤ payload.length) (h : Reaches (replay o payload) c payload s)
    {result : Except String Completion} (hr : s.collector = .returned result) :
    (m.launch call).result = result := by
  obtain ⟨exit, hlife, -⟩ := (inv_of_reaches h).result_eq hr
  obtain rfl := result_of_leaves h ((follows_of_reaches hunread h).leaves hlife) hr
  simp only [Machine.launch, hp, hinput, ho, exitOf]

end DockLint.Exchange

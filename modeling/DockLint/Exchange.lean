import DockLint.Host
import DockLint.Machine.Fault

/-!
# Feeding a process and draining it

A process with input runs beside two threads of the program. The writer pushes the input into a
pipe and closes it at the end; the collector takes what the process prints out of two others until
the process has closed both, waits for its end and then for the writer's. A pipe holds so many bytes
and no more. `Step` is what each of the three can do next, so that a run is any order of steps.
-/

namespace DockLint.Exchange

inductive Stream where
  | out | err
  deriving DecidableEq, Repr

/-! ### Processes -/

/-- What a process asks of the system; `next` is its state with the answer. -/
inductive Request (σ : Type) where
  /-- Some bytes of its input, at most `most`. There are none at the end of the input, and there is
  no answer but a refusal once the process has closed it. -/
  | read (most : Nat) (most_pos : 0 < most) (next : Option (List UInt8) → σ)
  /-- To print bytes. The answer is how many of them were taken, none once the stream is closed. -/
  | write (stream : Stream) (bytes : List UInt8) (bytes_ne : bytes ≠ []) (next : Nat → σ)
  | closeInput (next : σ)
  | closeOutput (stream : Stream) (next : σ)
  /-- To end, with no code if by a signal. -/
  | exit (code : Option Int)
  /-- Time to do something that nobody sees. -/
  | compute (next : σ)

/-- A program as its process behaves: in a state it may ask for any of several things. -/
structure Behavior (σ : Type) where
  start : σ
  Asks : σ → Request σ → Prop
  exists_asks : ∀ a, ∃ r, Asks a r

inductive Life (σ : Type) where
  | running (state : σ)
  | ended (exit : Option Int)

/-! ### The input -/

/-- How the writer has ended. -/
inductive Fed where
  | whole
  /-- Nobody reads any more. -/
  | broken
  /-- The pipe has refused bytes for another cause; none does so in a `Step`. -/
  | failed (cause : String)
  deriving DecidableEq, Repr

namespace Fed

/-- A process need not read its input, and what it printed counts all the same. -/
def result (f : Fed) (c : Completion) : Except String Completion :=
  match f with
  | whole | broken => .ok c
  | failed cause => .error cause

def notes : Fed → List Note
  | broken => [.inputClosed (Machine.Fault.withNumber "Broken pipe" 32)]
  | whole | failed _ => []

end Fed

/-- The pipe from the writer to the process. -/
structure Inlet where
  capacity : Nat
  /-- What the writer has not pushed yet. -/
  pending : List UInt8
  held : List UInt8
  /-- The writer's end of the pipe is open until it has ended. -/
  fed : Option Fed
  /-- The process has its end of the pipe open. -/
  readable : Bool
  /-- What the process has read. -/
  taken : List UInt8
  /-- The process has read up to the end of its input. -/
  exhausted : Bool
  capacity_pos : 0 < capacity

namespace Inlet

def room (i : Inlet) : Nat :=
  i.capacity - i.held.length

def push (i : Inlet) (n : Nat) : Inlet :=
  { i with pending := i.pending.drop n, held := i.held ++ i.pending.take n }

def finish (i : Inlet) (f : Fed) : Inlet :=
  { i with fed := some f }

def take (i : Inlet) (n : Nat) : Inlet :=
  { i with held := i.held.drop n, taken := i.taken ++ i.held.take n }

def exhaust (i : Inlet) : Inlet :=
  { i with exhausted := true }

def close (i : Inlet) : Inlet :=
  { i with readable := false }

end Inlet

/-! ### The outputs -/

/-- A pipe from the process to the collector. -/
structure Outlet where
  capacity : Nat
  held : List UInt8
  /-- The process has its end of the pipe open. -/
  writable : Bool
  /-- What the process has written. -/
  written : List UInt8
  collected : List UInt8
  /-- The collector has come to the end. -/
  drained : Bool
  capacity_pos : 0 < capacity

namespace Outlet

def room (o : Outlet) : Nat :=
  o.capacity - o.held.length

def accept (o : Outlet) (bytes : List UInt8) : Outlet :=
  { o with held := o.held ++ bytes, written := o.written ++ bytes }

def close (o : Outlet) : Outlet :=
  { o with writable := false }

def drain (o : Outlet) (n : Nat) : Outlet :=
  { o with held := o.held.drop n, collected := o.collected ++ o.held.take n }

def finish (o : Outlet) : Outlet :=
  { o with drained := true }

end Outlet

/-! ### Steps -/

inductive Collector where
  | draining
  /-- The process has been waited for. -/
  | reaped (exit : Option Int)
  /-- The writer has been waited for as well. -/
  | returned (result : Except String Completion)

structure State (σ : Type) where
  inlet : Inlet
  outlet : Stream → Outlet
  life : Life σ
  collector : Collector

namespace State

variable {σ : Type}

def setOutlet (s : State σ) (stream : Stream) (o : Outlet) : State σ :=
  { s with outlet := fun st => if st = stream then o else s.outlet st }

/-- What has been collected of a process that ended so. -/
def completion (s : State σ) (exit : Option Int) : Completion :=
  ⟨exit, (s.outlet .out).collected, (s.outlet .err).collected⟩

/-- A request that the process has to wait for. -/
def Blocks (s : State σ) : Request σ → Prop
  | .read .. => s.inlet.readable = true ∧ s.inlet.held = [] ∧ s.inlet.fed = none
  | .write stream .. => (s.outlet stream).writable = true ∧ (s.outlet stream).room = 0
  | _ => False

end State

/-- How many bytes the pipes hold. -/
structure Capacities where
  input : Nat
  output : Stream → Nat
  input_pos : 0 < input
  output_pos : ∀ stream, 0 < output stream

variable {σ : Type}

/-- A process has been launched and nothing has been pushed or printed. -/
def launched (b : Behavior σ) (c : Capacities) (payload : List UInt8) : State σ where
  inlet := ⟨c.input, payload, [], none, true, [], false, c.input_pos⟩
  outlet st := ⟨c.output st, [], true, [], [], false, c.output_pos st⟩
  life := .running b.start
  collector := .draining

inductive WriterStep (s : State σ) : State σ → Prop
  | push (n : Nat) (hfed : s.inlet.fed = none) (hreadable : s.inlet.readable = true) (hn : 0 < n)
      (hpending : n ≤ s.inlet.pending.length) (hroom : n ≤ s.inlet.room) :
      WriterStep s { s with inlet := s.inlet.push n }
  | whole (hfed : s.inlet.fed = none) (hpending : s.inlet.pending = []) :
      WriterStep s { s with inlet := s.inlet.finish .whole }
  | broken (hfed : s.inlet.fed = none) (hpending : s.inlet.pending ≠ [])
      (hreadable : s.inlet.readable = false) :
      WriterStep s { s with inlet := s.inlet.finish .broken }

inductive CollectorStep (s : State σ) : State σ → Prop
  | drain (stream : Stream) (n : Nat) (hcollector : s.collector = .draining) (hn : 0 < n)
      (hheld : n ≤ (s.outlet stream).held.length) :
      CollectorStep s (s.setOutlet stream ((s.outlet stream).drain n))
  | finish (stream : Stream) (hcollector : s.collector = .draining)
      (hdrained : (s.outlet stream).drained = false) (hheld : (s.outlet stream).held = [])
      (hwritable : (s.outlet stream).writable = false) :
      CollectorStep s (s.setOutlet stream (s.outlet stream).finish)
  | reap (exit : Option Int) (hcollector : s.collector = .draining)
      (hdrained : ∀ stream, (s.outlet stream).drained = true) (hlife : s.life = .ended exit) :
      CollectorStep s { s with collector := .reaped exit }
  | join (exit : Option Int) (f : Fed) (hcollector : s.collector = .reaped exit)
      (hfed : s.inlet.fed = some f) :
      CollectorStep s { s with collector := .returned (f.result (s.completion exit)) }

/-- The process gets an answer to the request `r`. -/
inductive Answers (s : State σ) : Request σ → State σ → Prop
  | read (n most : Nat) (most_pos : 0 < most) (next : Option (List UInt8) → σ)
      (hreadable : s.inlet.readable = true) (hn : 0 < n) (hmost : n ≤ most)
      (hheld : n ≤ s.inlet.held.length) :
      Answers s (.read most most_pos next)
        { s with inlet := s.inlet.take n, life := .running (next (some (s.inlet.held.take n))) }
  | readEnd (most : Nat) (most_pos : 0 < most) (next : Option (List UInt8) → σ)
      (hreadable : s.inlet.readable = true) (hheld : s.inlet.held = [])
      (hfed : s.inlet.fed ≠ none) :
      Answers s (.read most most_pos next)
        { s with inlet := s.inlet.exhaust, life := .running (next (some [])) }
  | readClosed (most : Nat) (most_pos : 0 < most) (next : Option (List UInt8) → σ)
      (hreadable : s.inlet.readable = false) :
      Answers s (.read most most_pos next) { s with life := .running (next none) }
  | write (n : Nat) (stream : Stream) (bytes : List UInt8) (bytes_ne : bytes ≠ [])
      (next : Nat → σ) (hwritable : (s.outlet stream).writable = true) (hn : 0 < n)
      (hbytes : n ≤ bytes.length) (hroom : n ≤ (s.outlet stream).room) :
      Answers s (.write stream bytes bytes_ne next)
        { s.setOutlet stream ((s.outlet stream).accept (bytes.take n)) with
          life := .running (next n) }
  | writeClosed (stream : Stream) (bytes : List UInt8) (bytes_ne : bytes ≠ []) (next : Nat → σ)
      (hwritable : (s.outlet stream).writable = false) :
      Answers s (.write stream bytes bytes_ne next) { s with life := .running (next 0) }
  | closeInput (next : σ) :
      Answers s (.closeInput next) { s with inlet := s.inlet.close, life := .running next }
  | closeOutput (stream : Stream) (next : σ) :
      Answers s (.closeOutput stream next)
        { s.setOutlet stream (s.outlet stream).close with life := .running next }
  /-- The ends of all pipes are closed with a process. -/
  | exit (code : Option Int) :
      Answers s (.exit code)
        { s with
          inlet := s.inlet.close
          outlet := fun st => (s.outlet st).close
          life := .ended code }
  | compute (next : σ) : Answers s (.compute next) { s with life := .running next }

/-- The process asks for something and gets it. -/
inductive ProcessStep (b : Behavior σ) (s : State σ) : State σ → Prop
  | ask {s' : State σ} (a : σ) (r : Request σ) (hlife : s.life = .running a) (hasks : b.Asks a r)
      (hanswer : Answers s r s') : ProcessStep b s s'

/-- A step of one of the program's threads. -/
inductive ParentStep (s s' : State σ) : Prop
  | writer (h : WriterStep s s')
  | collector (h : CollectorStep s s')

inductive Step (b : Behavior σ) (s s' : State σ) : Prop
  | parent (h : ParentStep s s')
  | process (h : ProcessStep b s s')

end DockLint.Exchange

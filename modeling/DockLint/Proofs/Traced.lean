import DockLint.Host

/-!
# What a computation leaves in the log and asks of the host

`countAt` counts the notes of a level, and `Warns` speaks of the two levels that a user sees.
`OnlyLogs` is about computations that ask nothing of the host. Each is passed on by `bind`.
`questions` is what is left of a trace without its notes: the files asked for and the processes run.
-/

namespace DockLint

namespace Event

/-- Everything but logging. -/
def isQuestion : Event → Bool
  | probe _ | run _ => true
  | log _ => false

def probed? : Event → Option String
  | probe path => some path
  | _ => none

def launched? : Event → Option Invocation
  | run call => some call
  | _ => none

end Event

namespace Traced

variable {α β : Type} {m : Traced α} {f : α → Traced β} {a b : Nat}

/-- What follows a computation depends on its value only. -/
theorem bind_of_value {x : α} (hm : m.value = x) : m >>= f = m >>= fun _ => f x := by
  subst hm
  rfl

/-! ### Notes by level -/

/-- How many notes of a level are logged. -/
def countAt (m : Traced α) (level : Level) : Nat :=
  m.notes.countP (·.level = level)

@[simp] theorem countAt_pure (x : α) (level : Level) : (pure x : Traced α).countAt level = 0 := rfl

@[simp] theorem countAt_bind (m : Traced α) (f : α → Traced β) (level : Level) :
    (m >>= f).countAt level = m.countAt level + (f m.value).countAt level := by
  rw [countAt, notes_bind, List.countP_append, countAt, countAt]

theorem countAt_eq_zero {level : Level} (h : ∀ note ∈ m.notes, note.level ≠ level) :
    m.countAt level = 0 :=
  List.countP_eq_zero.2 fun note hnote => by simpa using h note hnote

/-- No error is logged and so many warnings. -/
structure Warns (m : Traced α) (n : Nat) : Prop where
  error : m.countAt .error = 0
  warn : m.countAt .warn = n

theorem Warns.pure (x : α) : (pure x : Traced α).Warns 0 := ⟨rfl, rfl⟩

theorem Warns.bind (hm : m.Warns a) (hf : (f m.value).Warns b) : (m >>= f).Warns (a + b) :=
  ⟨by rw [countAt_bind, hm.error, hf.error], by rw [countAt_bind, hm.warn, hf.warn]⟩

theorem Warns.of_notes
    (h : ∀ note ∈ m.notes, note.level ≠ .error ∧ note.level ≠ .warn) : m.Warns 0 :=
  ⟨countAt_eq_zero fun note hnote => (h note hnote).1,
    countAt_eq_zero fun note hnote => (h note hnote).2⟩

def warnings (m : Traced α) : List Note :=
  m.notes.filter (·.level = .warn)

theorem mem_warnings_iff {note : Note} :
    note ∈ m.warnings ↔ note ∈ m.notes ∧ note.level = .warn := by
  rw [warnings, List.mem_filter, decide_eq_true_iff]

/-! ### Computations that only log -/

/-- No file is asked for and no process run. -/
def OnlyLogs (m : Traced α) : Prop :=
  m.trace = m.notes.map .log

theorem OnlyLogs.pure (x : α) : (pure x : Traced α).OnlyLogs := rfl

theorem OnlyLogs.log (note : Note) : (log note).OnlyLogs := rfl

theorem OnlyLogs.map (g : α → β) (hm : m.OnlyLogs) : (g <$> m).OnlyLogs := hm

theorem OnlyLogs.bind (hm : m.OnlyLogs) (hf : (f m.value).OnlyLogs) : (m >>= f).OnlyLogs := by
  rw [OnlyLogs, trace_bind, notes_bind, List.map_append, hm, hf]

/-! ### What is asked of the host -/

/-- The files asked for and the processes run, in order. -/
def questions (m : Traced α) : List Event :=
  m.trace.filter Event.isQuestion

@[simp] theorem questions_pure (x : α) : (pure x : Traced α).questions = [] := rfl

@[simp] theorem questions_bind (m : Traced α) (f : α → Traced β) :
    (m >>= f).questions = m.questions ++ (f m.value).questions :=
  List.filter_append _ _

@[simp] theorem questions_map (g : α → β) (m : Traced α) : (g <$> m).questions = m.questions := rfl

@[simp] theorem questions_log (note : Note) : (log note).questions = [] := rfl

theorem questions_of_onlyLogs (hm : m.OnlyLogs) : m.questions = [] := by
  rw [questions, hm, List.filter_eq_nil_iff]
  refine List.forall_mem_map.2 fun note _ => ?_
  simp [Event.isQuestion]

@[simp] theorem questions_logAll (notes : List Note) : (logAll notes).questions = [] :=
  questions_of_onlyLogs (by rw [OnlyLogs, notes_logAll]; rfl)

theorem probes_eq (m : Traced α) : m.probes = m.questions.filterMap Event.probed? := by
  rw [probes, questions, List.filterMap_filter]
  refine congrArg (List.filterMap · m.trace) (funext fun e => ?_)
  cases e <;> rfl

/-- Runs of processes ask for no file. -/
theorem probes_of_questions_append {n : Traced β} {calls : List Invocation}
    (h : m.questions = n.questions ++ calls.map .run) : m.probes = n.probes := by
  have hcalls : (calls.map Event.run).filterMap Event.probed? = [] :=
    List.filterMap_eq_nil_iff.2 (List.forall_mem_map.2 fun _ _ => rfl)
  rw [probes_eq, h, List.filterMap_append, hcalls, List.append_nil, ← probes_eq]

theorem calls_eq (m : Traced α) : m.calls = m.questions.filterMap Event.launched? := by
  rw [calls, questions, List.filterMap_filter]
  refine congrArg (List.filterMap · m.trace) (funext fun e => ?_)
  cases e <;> rfl

theorem calls_of_questions_append {n : Traced β} {calls : List Invocation}
    (h : m.questions = n.questions ++ calls.map .run) : m.calls = n.calls ++ calls := by
  rw [calls_eq, h, List.filterMap_append, List.filterMap_map, ← calls_eq]
  exact congrArg (n.calls ++ ·) List.filterMap_some

end Traced

namespace Host

variable {h : Host}

@[simp] theorem value_run (h : Host) (call : Invocation) :
    (h.run call).value = (h.launch call).result := rfl

@[simp] theorem trace_run (h : Host) (call : Invocation) :
    (h.run call).trace = .run call :: (h.launch call).notes.map .log :=
  congrArg (Event.run call :: ·) (List.append_nil _)

@[simp] theorem notes_run (h : Host) (call : Invocation) :
    (h.run call).notes = (h.launch call).notes := by
  simp [run]

@[simp] theorem calls_run (h : Host) (call : Invocation) : (h.run call).calls = [call] := by
  simp [run]

@[simp] theorem questions_run (h : Host) (call : Invocation) :
    (h.run call).questions = [.run call] := by
  rw [run, Traced.questions_bind, Traced.questions_bind, Traced.questions_logAll]
  rfl

@[simp] theorem value_probe (h : Host) (path : String) : (h.probe path).value = h.isFile path := rfl

@[simp] theorem questions_probe (h : Host) (path : String) :
    (h.probe path).questions = [.probe path] := rfl

/-- What a host notes while it runs a process is no more urgent than for debugging. -/
def Quiet (h : Host) : Prop :=
  ∀ call, ∀ note ∈ (h.launch call).notes, Level.debug.number ≤ note.level.number

theorem warns_run (hq : h.Quiet) (call : Invocation) : (h.run call).Warns 0 := by
  refine .of_notes fun note hnote => ?_
  rw [notes_run] at hnote
  have hlevel := hq call note hnote
  have hne {level : Level} (h : level.number < Level.debug.number) : note.level ≠ level := by
    rintro rfl
    exact Nat.not_lt.2 hlevel h
  exact ⟨hne (by decide), hne (by decide)⟩

/-- The process cannot be launched. -/
def Fails (h : Host) (call : Invocation) : Prop :=
  ∃ cause, (h.launch call).result = .error cause

instance (h : Host) (call : Invocation) : Decidable (h.Fails call) :=
  match he : (h.launch call).result with
  | .error cause => isTrue ⟨cause, he⟩
  | .ok _ => isFalse fun ⟨_, hc⟩ => by rw [he] at hc; cases hc

end Host

end DockLint

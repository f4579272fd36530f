import DockLint.Note
import DockLint.Process

/-!
# Traces

A computation that asks things of its host yields a value together with everything it did, in
order: the files it asked for, the processes it ran and the notes it logged. Running one
computation after another joins their traces.
-/

namespace DockLint

inductive Event where
  /-- Whether `path` is a file was asked. -/
  | probe (path : String)
  | run (call : Invocation)
  | log (note : Note)
  deriving Repr

structure Traced (α : Type) where
  value : α
  trace : List Event

namespace Traced

variable {α β : Type}

instance : Monad Traced where
  map f m := ⟨f m.value, m.trace⟩
  pure a := ⟨a, []⟩
  bind m f := ⟨(f m.value).value, m.trace ++ (f m.value).trace⟩

@[simp] theorem value_pure (a : α) : (pure a : Traced α).value = a := rfl

@[simp] theorem trace_pure (a : α) : (pure a : Traced α).trace = [] := rfl

@[simp] theorem value_bind (m : Traced α) (f : α → Traced β) :
    (m >>= f).value = (f m.value).value := rfl

@[simp] theorem trace_bind (m : Traced α) (f : α → Traced β) :
    (m >>= f).trace = m.trace ++ (f m.value).trace := rfl

@[simp] theorem value_map (f : α → β) (m : Traced α) : (f <$> m).value = f m.value := rfl

@[simp] theorem trace_map (f : α → β) (m : Traced α) : (f <$> m).trace = m.trace := rfl

theorem ext {m n : Traced α} (hv : m.value = n.value) (ht : m.trace = n.trace) : m = n := by
  cases m; cases n; congr

theorem bind_pure_eq_map (f : α → β) (m : Traced α) : (m >>= fun a => pure (f a)) = f <$> m :=
  ext rfl (List.append_nil _)

instance : LawfulMonad Traced where
  map_const := rfl
  id_map _ := rfl
  seqLeft_eq m n := ext rfl (by simp [SeqLeft.seqLeft, Seq.seq, Functor.map])
  seqRight_eq m n := ext rfl (by simp [SeqRight.seqRight, Seq.seq, Functor.map])
  pure_seq f m := ext rfl (by simp [Seq.seq, Functor.map, pure])
  bind_pure_comp := bind_pure_eq_map
  bind_map _ _ := rfl
  pure_bind _ _ := rfl
  bind_assoc _ _ _ := ext rfl (List.append_assoc _ _ _)

def emit (e : Event) : Traced Unit := ⟨(), [e]⟩

def log (n : Note) : Traced Unit := emit (.log n)

def logAll (ns : List Note) : Traced Unit := ⟨(), ns.map .log⟩

/-- The paths asked for, in order. -/
def probes (m : Traced α) : List String :=
  m.trace.filterMap fun | .probe path => some path | _ => none

/-- The processes run, in order. -/
def calls (m : Traced α) : List Invocation :=
  m.trace.filterMap fun | .run call => some call | _ => none

/-- The notes logged, in order. -/
def notes (m : Traced α) : List Note :=
  m.trace.filterMap fun | .log note => some note | _ => none

@[simp] theorem notes_pure (a : α) : (pure a : Traced α).notes = [] := rfl

@[simp] theorem notes_bind (m : Traced α) (f : α → Traced β) :
    (m >>= f).notes = m.notes ++ (f m.value).notes :=
  List.filterMap_append

@[simp] theorem notes_map (f : α → β) (m : Traced α) : (f <$> m).notes = m.notes := rfl

@[simp] theorem notes_log (n : Note) : (log n).notes = [n] := rfl

@[simp] theorem notes_emit_probe (path : String) : (emit (.probe path)).notes = [] := rfl

@[simp] theorem notes_emit_run (call : Invocation) : (emit (.run call)).notes = [] := rfl

@[simp] theorem notes_logAll (ns : List Note) : (logAll ns).notes = ns := by
  rw [notes, logAll, List.filterMap_map]
  exact List.filterMap_some

@[simp] theorem calls_pure (a : α) : (pure a : Traced α).calls = [] := rfl

@[simp] theorem calls_bind (m : Traced α) (f : α → Traced β) :
    (m >>= f).calls = m.calls ++ (f m.value).calls :=
  List.filterMap_append

@[simp] theorem calls_map (f : α → β) (m : Traced α) : (f <$> m).calls = m.calls := rfl

@[simp] theorem calls_log (n : Note) : (log n).calls = [] := rfl

@[simp] theorem calls_emit_probe (path : String) : (emit (.probe path)).calls = [] := rfl

@[simp] theorem calls_emit_run (call : Invocation) : (emit (.run call)).calls = [call] := rfl

@[simp] theorem calls_logAll (ns : List Note) : (logAll ns).calls = [] := by
  rw [calls, logAll, List.filterMap_map]
  exact List.filterMap_eq_nil_iff.2 fun _ _ => rfl

end Traced

end DockLint

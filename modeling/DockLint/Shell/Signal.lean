/-!
# Signals

The signals of the system by number, with their names and what is said of a process that one has
ended.
-/

namespace DockLint.Shell.Signal

/-- The names of the first signals in order; 16 has none. The end of a shell counts as number 0. -/
def names : List String :=
  ["EXIT", "HUP", "INT", "QUIT", "ILL", "TRAP", "ABRT", "BUS", "FPE", "KILL", "USR1", "SEGV",
    "USR2", "PIPE", "ALRM", "TERM", "", "CHLD", "CONT", "STOP", "TSTP", "TTIN", "TTOU", "URG",
    "XCPU", "XFSZ", "VTALRM", "PROF", "WINCH", "IO", "PWR", "SYS"]

def texts : List String :=
  ["", "Hangup", "Interrupt", "Quit", "Illegal instruction", "Trace/breakpoint trap", "Aborted",
    "Bus error", "Floating point exception", "Killed", "User defined signal 1",
    "Segmentation fault", "User defined signal 2", "Broken pipe", "Alarm clock", "Terminated",
    "Stack fault", "Child exited", "Continued", "Stopped (signal)", "Stopped",
    "Stopped (tty input)", "Stopped (tty output)", "Urgent I/O condition",
    "CPU time limit exceeded", "File size limit exceeded", "Virtual timer expired",
    "Profiling timer expired", "Window changed", "I/O possible", "Power failure",
    "Bad system call"]

def interrupt : Nat := 2
def quit : Nat := 3
def arithmetic : Nat := 8
def kill : Nat := 9
def brokenPipe : Nat := 13
def terminate : Nat := 15
/-- That one of the process's own has ended. -/
def child : Nat := 17

/-- The largest number of a signal. -/
def last : Nat := 64

/-- The first of the signals that have no purpose of their own. -/
def firstFree : Nat := 34

/-- A signal's name, or its number if it has none. -/
def name (n : Nat) : String :=
  let free := n - firstFree
  if n < firstFree then
    match names[n]? with
    | some "" | none => toString n
    | some s => s
  else if free = 0 then "RTMIN"
  else if free ≤ 15 then "RTMIN+" ++ toString free
  else if n < last then "RTMAX-" ++ toString (last - n)
  else if n = last then "RTMAX"
  else toString n

/-- What is said of a process that the signal has ended. -/
def text (n : Nat) : String :=
  match texts[n]? with
  | some "" | none =>
    if firstFree ≤ n ∧ n ≤ last then "Real-time signal " ++ toString (n - firstFree)
    else "Unknown signal " ++ toString n
  | some s => s

/-- The signal that a number or a name, in letters of either case, stands for, from number `least`
on for a name. -/
def ofText? (least : Nat) (s : List Char) : Option Nat :=
  let n := s.foldl (fun n c => n * 10 + (c.toNat - 0x30)) 0
  if ¬ s.isEmpty ∧ s.all Char.isDigit ∧ n ≤ last then some n
  else
    (List.range (last + 1)).find? fun n =>
      least ≤ n && (name n).toList.map Char.toLower == s.map Char.toLower

/-- Whether a process that does nothing about the signal goes on. -/
def isHarmless (n : Nat) : Bool :=
  [0, 17, 18, 19, 20, 21, 22, 23, 28].contains n

/-- Whether the end that the signal puts to a process is told: those of an interrupt and of a reader
that went away are not. -/
def isTold (n : Nat) : Bool :=
  n != interrupt && n != brokenPipe

end DockLint.Shell.Signal

/-!
# Severity

Three display tiers. Every reported level other than `error` and `warning`, in any ASCII letter
case, is an `info`.
-/

namespace DockLint

inductive Severity where
  | info | warning | error
  deriving DecidableEq, Repr, Inhabited

namespace Severity

def name : Severity → String
  | info => "info"
  | warning => "warning"
  | error => "error"

/-- `error` is the most severe. -/
def rank : Severity → Nat
  | info => 0
  | warning => 1
  | error => 2

instance : LE Severity := ⟨fun a b => a.rank ≤ b.rank⟩

instance (a b : Severity) : Decidable (a ≤ b) := inferInstanceAs (Decidable (a.rank ≤ b.rank))

instance : Ord Severity := ⟨fun a b => compare a.rank b.rank⟩

instance : Max Severity := ⟨fun a b => if a ≤ b then b else a⟩

/-- Equal up to ASCII letter case. -/
def sameWord (a b : String) : Bool :=
  a.toList.map Char.toLower == b.toList.map Char.toLower

def ofLevel (level : String) : Severity :=
  if sameWord level "error" then error
  else if sameWord level "warning" then warning
  else info

/-- Ascending; equal severities keep their order. -/
def sort (ss : List Severity) : List Severity :=
  ss.mergeSort (· ≤ ·)

/-- The most severe, unless there is none. -/
def maximum? (ss : List Severity) : Option Severity :=
  ss.max?

theorem rank_injective {a b : Severity} (h : a.rank = b.rank) : a = b := by
  cases a <;> cases b <;> first | rfl | cases h

theorem max_rank (a b : Severity) : (max a b).rank = Nat.max a.rank b.rank := by
  cases a <;> cases b <;> rfl

end Severity

end DockLint

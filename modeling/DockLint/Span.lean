/-!
# Spans

A span is a half-open, non-empty interval of character offsets.
-/

namespace DockLint

@[ext]
structure Span where
  start : Nat
  stop : Nat
  start_lt_stop : start < stop
  deriving DecidableEq, Repr

namespace Span

def ofBounds? (start stop : Nat) : Option Span :=
  if h : start < stop then some ⟨start, stop, h⟩ else none

/-- The number of characters covered. -/
def length (s : Span) : Nat :=
  s.stop - s.start

/-- Whether a document of `size` characters has every offset of the span. -/
def fits (s : Span) (size : Nat) : Bool :=
  s.stop ≤ size

def text (s : Span) : String :=
  toString s.start ++ ".." ++ toString s.stop

theorem length_pos (s : Span) : 0 < s.length :=
  Nat.sub_pos_of_lt s.start_lt_stop

theorem ofBounds?_eq_some_iff {a b : Nat} {s : Span} :
    ofBounds? a b = some s ↔ s.start = a ∧ s.stop = b := by
  unfold ofBounds?
  split
  · rw [Option.some.injEq]
    constructor
    · rintro rfl; exact ⟨rfl, rfl⟩
    · rintro ⟨rfl, rfl⟩; rfl
  · rename_i h
    simp only [reduceCtorEq, false_iff]
    rintro ⟨rfl, rfl⟩
    exact h s.start_lt_stop

theorem ofBounds?_eq_none_iff {a b : Nat} : ofBounds? a b = none ↔ b ≤ a := by
  unfold ofBounds?
  split <;> simp_all

end Span

end DockLint

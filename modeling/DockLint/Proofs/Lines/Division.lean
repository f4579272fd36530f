import Mathlib.Logic.ExistsUnique
import DockLint.LineTable

/-!
# Dividing a text into lines

A `Division` is a text as lines with a terminator each and a last line without one. It is `Proper`
if no line holds CR or LF and no terminator is a CR cut off from its LF. `division_unique`: every
text has exactly one proper division, the one that `divide` finds.
-/

namespace DockLint

inductive Terminator where
  | lf | crlf | cr
  deriving DecidableEq, Repr

namespace Terminator

def chars : Terminator → List Char
  | lf => ['\n']
  | crlf => ['\r', '\n']
  | cr => ['\r']

end Terminator

/-- CR and LF occur in terminators only. -/
def IsBreak (c : Char) : Prop :=
  c = '\r' ∨ c = '\n'

instance (c : Char) : Decidable (IsBreak c) := inferInstanceAs (Decidable (_ ∨ _))

structure Division where
  /-- The lines that have a terminator. -/
  ended : List (List Char × Terminator)
  last : List Char
  deriving DecidableEq, Repr

namespace Division

/-- A line with its terminator. -/
def whole (p : List Char × Terminator) : List Char :=
  p.1 ++ p.2.chars

/-- The text that is divided. -/
def chars (d : Division) : List Char :=
  d.ended.flatMap whole ++ d.last

def lines (d : Division) : List (List Char) :=
  d.ended.map Prod.fst ++ [d.last]

/-- The number of characters in front of line `i`, counted from 0. -/
def offset (d : Division) (i : Nat) : Nat :=
  ((d.ended.take i).flatMap whole).length

structure Proper (d : Division) : Prop where
  plain : ∀ l ∈ d.lines, ∀ c ∈ l, ¬ IsBreak c
  /-- What follows a CR that ends a line does not begin with LF. -/
  apart : ∀ front l back, d.ended = front ++ (l, .cr) :: back →
    (chars ⟨back, d.last⟩).head? ≠ some '\n'

/-- Puts characters in front of the first line. -/
def prepend (l : List Char) : Division → Division
  | ⟨[], last⟩ => ⟨[], l ++ last⟩
  | ⟨(l', t) :: ended, last⟩ => ⟨(l ++ l', t) :: ended, last⟩

/-- Puts a line in front. -/
def cons (p : List Char × Terminator) (d : Division) : Division :=
  ⟨p :: d.ended, d.last⟩

end Division

/-- The lines of a text. -/
def divide : List Char → Division
  | [] => ⟨[], []⟩
  | '\n' :: cs => (divide cs).cons ([], .lf)
  | '\r' :: '\n' :: cs => (divide cs).cons ([], .crlf)
  | '\r' :: cs => (divide cs).cons ([], .cr)
  | c :: cs => (divide cs).prepend [c]

namespace Division

variable {d : Division} {p : List Char × Terminator} {ended : List (List Char × Terminator)}
  {last l cs : List Char}

@[simp] theorem chars_nil : chars ⟨[], last⟩ = last := rfl

@[simp] theorem chars_cons : (d.cons p).chars = whole p ++ d.chars :=
  List.append_assoc ..

@[simp] theorem lines_nil : lines ⟨[], last⟩ = [last] := rfl

@[simp] theorem lines_cons : (d.cons p).lines = p.1 :: d.lines := rfl

@[simp] theorem length_lines (d : Division) : d.lines.length = d.ended.length + 1 := by
  simp [lines]

@[simp] theorem chars_prepend (l : List Char) (d : Division) :
    (d.prepend l).chars = l ++ d.chars := by
  obtain ⟨_ | ⟨p, ended⟩, last⟩ := d <;> simp [prepend, chars, whole]

theorem prepend_nil (d : Division) : d.prepend [] = d := by
  obtain ⟨_ | ⟨p, ended⟩, last⟩ := d <;> rfl

theorem prepend_prepend (a b : List Char) (d : Division) :
    (d.prepend b).prepend a = d.prepend (a ++ b) := by
  obtain ⟨_ | ⟨p, ended⟩, last⟩ := d <;> simp [prepend]

theorem proper_nil (h : ∀ c ∈ last, ¬ IsBreak c) : Proper ⟨[], last⟩ where
  plain l hl := by
    obtain rfl := List.mem_singleton.1 hl
    exact h
  apart front l back he := by simp at he

namespace Proper

theorem cons (hd : d.Proper) (hl : ∀ c ∈ p.1, ¬ IsBreak c)
    (hcr : p.2 = .cr → d.chars.head? ≠ some '\n') : (d.cons p).Proper where
  plain l hmem := by
    rcases List.mem_cons.1 hmem with rfl | hmem
    · exact hl
    · exact hd.plain l hmem
  apart front l back he := by
    cases front with
    | nil =>
      obtain ⟨rfl, rfl⟩ : p = (l, .cr) ∧ d.ended = back := by simpa [Division.cons] using he
      exact hcr rfl
    | cons q front =>
      exact hd.apart front l back (List.cons.inj he).2

theorem tail (h : (d.cons p).Proper) : d.Proper where
  plain l hl := h.plain l (List.mem_cons_of_mem _ hl)
  apart front l back he := h.apart (p :: front) l back (congrArg (p :: ·) he)

theorem head_plain (h : (d.cons p).Proper) : ∀ c ∈ p.1, ¬ IsBreak c :=
  h.plain p.1 List.mem_cons_self

theorem head_apart (h : (d.cons p).Proper) (hp : p.2 = .cr) : d.chars.head? ≠ some '\n' :=
  h.apart [] p.1 d.ended (by rw [← hp]; rfl)

theorem prepend (hd : d.Proper) (hl : ∀ c ∈ l, ¬ IsBreak c) : (d.prepend l).Proper := by
  obtain ⟨_ | ⟨⟨l', t⟩, ended⟩, last⟩ := d
  · refine proper_nil fun c hc => ?_
    rcases List.mem_append.1 hc with hc | hc
    · exact hl c hc
    · exact hd.plain last (List.mem_singleton_self _) c hc
  · have hd' : (Division.cons (l', t) ⟨ended, last⟩).Proper := hd
    refine hd'.tail.cons (p := (l ++ l', t)) (fun c hc => ?_) hd'.head_apart
    rcases List.mem_append.1 hc with hc | hc
    · exact hl c hc
    · exact hd'.head_plain c hc

end Proper

end Division

open Division

theorem chars_divide (cs : List Char) : (divide cs).chars = cs := by
  fun_induction divide cs with
  | case1 => rfl
  | case2 cs ih => rw [chars_cons, ih]; rfl
  | case3 cs ih => rw [chars_cons, ih]; rfl
  | case4 cs _ ih => rw [chars_cons, ih]; rfl
  | case5 c cs _ _ _ ih => rw [chars_prepend, ih]; rfl

theorem proper_divide (cs : List Char) : (divide cs).Proper := by
  fun_induction divide cs with
  | case1 => exact proper_nil (by simp)
  | case2 cs ih => exact ih.cons (by simp) (by simp)
  | case3 cs ih => exact ih.cons (by simp) (by simp)
  | case4 cs hlf ih =>
    refine ih.cons (by simp) fun _ => ?_
    rw [chars_divide]
    cases cs with
    | nil => simp
    | cons c cs =>
      rw [List.head?_cons, ne_eq, Option.some.injEq]
      rintro rfl
      exact hlf cs rfl
  | case5 c cs hlf _ hcr ih =>
    refine ih.prepend fun c' hc' => ?_
    obtain rfl := List.mem_singleton.1 hc'
    rintro (rfl | rfl)
    · exact hcr rfl
    · exact hlf rfl

theorem divide_plain (cs : List Char) {l : List Char} (hl : ∀ c ∈ l, ¬ IsBreak c) :
    divide (l ++ cs) = (divide cs).prepend l := by
  induction l with
  | nil => exact (prepend_nil _).symm
  | cons c l ih =>
    have hc : ¬ IsBreak c := hl c List.mem_cons_self
    have step : divide (c :: (l ++ cs)) = (divide (l ++ cs)).prepend [c] := by
      rw [divide]
      · rintro rfl; exact hc (.inr rfl)
      · rintro _ rfl; exact absurd (.inl rfl) hc
      · rintro rfl; exact hc (.inl rfl)
    rw [List.cons_append, step, ih fun c' hc' => hl c' (List.mem_cons_of_mem _ hc'),
      prepend_prepend]
    rfl

theorem divide_terminator (t : Terminator) {cs : List Char} (h : t = .cr → cs.head? ≠ some '\n') :
    divide (t.chars ++ cs) = (divide cs).cons ([], t) := by
  cases t with
  | lf => rfl
  | crlf => rfl
  | cr =>
    have hcs := h rfl
    cases cs with
    | nil => rfl
    | cons c cs =>
      show divide ('\r' :: c :: cs) = _
      rw [divide]
      rintro _ ⟨⟩
      exact hcs rfl

/-- A proper division is found again in its text. -/
theorem divide_chars {d : Division} (h : d.Proper) : divide d.chars = d := by
  obtain ⟨ended, last⟩ := d
  induction ended with
  | nil =>
    have := divide_plain [] (h.plain last (List.mem_singleton_self _))
    simpa [divide, prepend] using this
  | cons p ended ih =>
    have h : (Division.cons p ⟨ended, last⟩).Proper := h
    calc divide (Division.cons p ⟨ended, last⟩).chars
      _ = divide (p.1 ++ (p.2.chars ++ chars ⟨ended, last⟩)) := by
        rw [chars_cons, whole, List.append_assoc]
      _ = ((divide (chars ⟨ended, last⟩)).cons ([], p.2)).prepend p.1 := by
        rw [divide_plain _ h.head_plain, divide_terminator _ h.head_apart]
      _ = Division.cons p ⟨ended, last⟩ := by
        rw [ih h.tail]; simp [Division.cons, prepend]

/-- A text is divided into lines in exactly one way. -/
theorem division_unique (cs : List Char) : ∃! d : Division, d.Proper ∧ d.chars = cs := by
  refine ⟨divide cs, ⟨proper_divide cs, chars_divide cs⟩, ?_⟩
  rintro d ⟨hd, rfl⟩
  exact (divide_chars hd).symm

example : divide ['a', '\r', '\r', '\n', 'b'] = ⟨[(['a'], .cr), ([], .crlf)], ['b']⟩ := by
  decide

end DockLint

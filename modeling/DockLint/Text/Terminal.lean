/-!
# Text for readers other than terminals

A terminal obeys control characters and escape sequences where it shows other characters. `plain`
leaves out both, but for tabs and what ends a line or a page. A sequence may be cut short: an escape
begins another one, and CAN and SUB give up. A string that is never closed takes the rest of the
text with it.

A text without control characters is all shown (`plain_eq_self`), and nothing is shown that is not
there (`plainFrom_sublist`).
-/

namespace DockLint.Text.Terminal

/-- Where in a sequence a text stands. -/
inductive Place where
  | ground
  | escape
  /-- After an escape and a character from space to slash. -/
  | escapeIntermediate
  /-- In a control sequence, which goes on to a character from `@` to tilde. -/
  | control
  | deviceEntry
  | deviceParameter
  | deviceIntermediate
  /-- In a string for a device, or one that nothing reads. -/
  | string
  /-- In a string for the terminal's system, which the bell ends too. -/
  | command
  deriving DecidableEq, Repr

def isDelete (c : Char) : Bool := c == '\x7F'

/-- Tabs, line feeds, form feeds and carriage returns, which are shown within most sequences too. -/
def isSpacing (c : Char) : Bool :=
  c == '\t' || c == '\n' || c == '\x0C' || c == '\r'

def isShown (c : Char) : Bool :=
  isSpacing c || (' ' ≤ c && !isDelete c)

def isWide (c : Char) : Bool := 128 ≤ c.toNat

/-- One of the bytes of a character in UTF-8 is 9C, which ends a string. -/
def holdsTerminator (c : Char) : Bool :=
  isWide c && (String.singleton c).toUTF8.toList.any (· == 0x9C)

def isWithin (low high c : Char) : Bool := low ≤ c && c ≤ high

/-- The place after a character that is neither shown nor an escape. -/
def Place.next (p : Place) (c : Char) : Place :=
  match p with
  | ground => ground
  | escape =>
    if c = '[' then control
    else if c = ']' then command
    else if c = 'P' then deviceEntry
    else if c = 'X' ∨ c = '^' ∨ c = '_' then string
    else if isWithin ' ' '/' c then escapeIntermediate
    else if isWithin '0' '~' c then ground
    else escape
  | escapeIntermediate => if isWithin '0' '~' c then ground else escapeIntermediate
  | control => if isWithin '@' '~' c then ground else control
  | deviceEntry =>
    if isWithin '@' '~' c then string
    else if isWithin ' ' '/' c then deviceIntermediate
    else if isWithin '0' '?' c then deviceParameter
    else deviceEntry
  | deviceParameter =>
    if isWithin '<' '~' c then string
    else if isWithin ' ' '/' c then deviceIntermediate
    else deviceParameter
  | deviceIntermediate => if isWithin '0' '~' c then string else deviceIntermediate
  | string => if holdsTerminator c then ground else string
  | command => if c = '\x07' then ground else command

/-- White space within these places is shown. -/
def Place.showsSpacing : Place → Bool
  | escape | escapeIntermediate | control => true
  | _ => false

/--
A place, and whether characters are being shown. White space in a sequence starts to show what
follows, up to the next character that is not shown, where the sequence goes on.
-/
structure State where
  place : Place
  showing : Bool
  deriving DecidableEq, Repr

/-- The state after a character; the character is shown if and only if that state shows. -/
def State.next (s : State) (c : Char) : State :=
  if c = '\x1B' then ⟨.escape, false⟩
  else if c = '\x18' ∨ c = '\x1A' then ⟨.ground, false⟩
  else if isShown c ∧ (s.showing ∨ s.place = .ground) then
    ⟨if isWide c then .ground else s.place, true⟩
  else if isSpacing c ∧ s.place.showsSpacing then ⟨s.place, true⟩
  else ⟨s.place.next c, false⟩

def plainFrom (s : State) : List Char → List Char
  | [] => []
  | c :: rest =>
    let t := s.next c
    if t.showing then c :: plainFrom t rest else plainFrom t rest

/-- What a terminal would show, without what it would obey. -/
def plain (text : List Char) : List Char :=
  plainFrom ⟨.ground, false⟩ text

theorem plainFrom_sublist (s : State) (text : List Char) : (plainFrom s text).Sublist text := by
  induction text generalizing s with
  | nil => exact .slnil
  | cons c rest ih =>
    simp only [plainFrom]
    split
    · exact (ih _).cons_cons c
    · exact (ih _).cons c

/-- Text without control characters is all shown. -/
theorem plain_eq_self {text : List Char} (h : ∀ c ∈ text, isShown c = true) :
    plain text = text := by
  suffices hs : ∀ s : State, s.place = .ground → plainFrom s text = text from hs _ rfl
  induction text with
  | nil => intros; rfl
  | cons c rest ih =>
    intro s hs
    have hc := h c (.head rest)
    have hn : s.next c = ⟨.ground, true⟩ := by
      have h1 : c ≠ '\x1B' := fun e => absurd hc (by subst e; decide)
      have h2 : ¬(c = '\x18' ∨ c = '\x1A') := by
        rintro (e | e) <;> exact absurd hc (by subst e; decide)
      simp [State.next, h1, h2, hc, hs]
    have ht := ih (fun d hd => h d (.tail c hd)) ⟨.ground, true⟩ rfl
    simp only [plainFrom, hn, if_true, ht]

end DockLint.Text.Terminal

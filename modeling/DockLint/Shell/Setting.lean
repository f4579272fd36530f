/-!
# Settings of a shell

What `set` turns on and off, by name and by letter.
-/

namespace DockLint.Shell

inductive Setting where
  | errexit | noglob | ignoreeof | interactive | monitor | noexec | stdin | xtrace | verbose
  | vi | emacs | noclobber | allexport | notify | nounset | privileged | nolog | debug
  deriving DecidableEq, Repr

namespace Setting

/-- All settings, in the order in which they are listed. -/
def all : List Setting :=
  [errexit, noglob, ignoreeof, interactive, monitor, noexec, stdin, xtrace, verbose, vi, emacs,
    noclobber, allexport, notify, nounset, privileged, nolog, debug]

def name : Setting → String
  | errexit => "errexit"
  | noglob => "noglob"
  | ignoreeof => "ignoreeof"
  | interactive => "interactive"
  | monitor => "monitor"
  | noexec => "noexec"
  | stdin => "stdin"
  | xtrace => "xtrace"
  | verbose => "verbose"
  | vi => "vi"
  | emacs => "emacs"
  | noclobber => "noclobber"
  | allexport => "allexport"
  | notify => "notify"
  | nounset => "nounset"
  | privileged => "privileged"
  | nolog => "nolog"
  | debug => "debug"

def letter? : Setting → Option Char
  | errexit => some 'e'
  | noglob => some 'f'
  | ignoreeof => some 'I'
  | interactive => some 'i'
  | monitor => some 'm'
  | noexec => some 'n'
  | stdin => some 's'
  | xtrace => some 'x'
  | verbose => some 'v'
  | vi => some 'V'
  | emacs => some 'E'
  | noclobber => some 'C'
  | allexport => some 'a'
  | notify => some 'b'
  | nounset => some 'u'
  | privileged => some 'p'
  | nolog | debug => none

def ofLetter? (c : Char) : Option Setting :=
  all.find? fun s => s.letter? == some c

def ofName? (name : List Char) : Option Setting :=
  all.find? fun s => s.name.toList == name

end Setting

/-- The settings that are on. -/
structure Settings where
  active : List Setting
  deriving DecidableEq, Repr

namespace Settings

def none : Settings := ⟨[]⟩

def has (s : Settings) (x : Setting) : Bool :=
  s.active.contains x

def change (s : Settings) (x : Setting) (on : Bool) : Settings :=
  let rest := s.active.filter (· != x)
  if on then ⟨x :: rest⟩ else ⟨rest⟩

/-- Changes the setting of a letter. Of the two ways of editing lines one excludes the other. -/
def setLetter? (s : Settings) (c : Char) (on : Bool) : Option Settings := do
  let x ← Setting.ofLetter? c
  let s := s.change x on
  if on ∧ x = .vi then return s.change .emacs false
  if on ∧ x = .emacs then return s.change .vi false
  return s

/-- The letters of the settings that are on, the last listed first. -/
def letters (s : Settings) : List Char :=
  (Setting.all.filter s.has).reverse.filterMap Setting.letter?

/-- All settings, each with whether it is on. -/
def table (s : Settings) : List Char :=
  let line (x : Setting) : List Char :=
    x.name.toList ++ List.replicate (16 - x.name.length) ' ' ++
      (if s.has x then "on" else "off").toList ++ ['\n']
  "Current option settings\n".toList ++ Setting.all.flatMap line

/-- The commands that make the settings what they are. -/
def commands (s : Settings) : List Char :=
  Setting.all.flatMap fun x =>
    ((if s.has x then "set -o " else "set +o ") ++ x.name ++ "\n").toList

end Settings

end DockLint.Shell

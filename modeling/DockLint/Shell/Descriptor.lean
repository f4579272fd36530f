import DockLint.Shell.State

/-!
# Descriptors

Opening files for a script's redirections, and making descriptors stand for what others do.
-/

namespace DockLint.Shell

/-- Why a file could not be opened for reading. -/
def openReason (f : Machine.Fault) : List Char :=
  match f with
  | .notFound | .notDirectory => "No such file".toList
  | f => f.name.toList

/-- Why a file could not be opened for writing. -/
def createReason (f : Machine.Fault) : List Char :=
  match f with
  | .notFound | .notDirectory => "Directory nonexistent".toList
  | f => f.name.toList

/-- Whether a mode makes a file if there is none. -/
def Mode.creates : Mode → Bool
  | .read => false
  | .readWrite | .write | .overwrite | .append => true

/-- Whether a mode empties the file. -/
def Mode.empties : Mode → Bool
  | .write | .overwrite => true
  | .read | .readWrite | .append => false

/-- Opens what there is under the names. -/
def openNames (names : List String) (mode : Mode) : Act Nat := do
  let st ← get
  match st.world.root.at? names with
  | some (.directory _) => newStream .directory
  | some (.device d) => newStream (.device (d = .full))
  | _ =>
    if mode.empties then
      set { st with world := { st.world with root := (st.tree.write names []).root } }
    else if mode.creates ∧ (st.world.root.at? names).isNone then
      set { st with world := { st.world with root := (st.tree.write names []).root } }
    newStream (.file names 0 mode)

/-- Opens a file: the number of its stream. -/
def openFile (mode : Mode) (path : List Char) : Act Nat := do
  let st ← get
  let cannot (what : String) (reason : List Char) : Act Nat :=
    fail (("cannot " ++ what ++ " ").toList ++ path ++ ": ".toList ++ reason)
  let name := pathOf path
  match st.tree.node name with
  | .ok (.descriptor n) =>
    match ← stream? n with
    | none =>
      if mode.creates then cannot "create" (createReason .notFound)
      else cannot "open" (openReason .notFound)
    | some (_, .file names _ _) => openNames names mode
    | some (id, _) => return id
  | .ok node =>
    if node matches .device .terminal then
      let f := Machine.Fault.noDevice
      if mode.creates then cannot "create" (createReason f) else cannot "open" (openReason f)
    else if ¬ mode.creates then
      match st.tree.resolve name with
      | .ok names => openNames names mode
      | .error f => cannot "open" (openReason f)
    else if node.isDirectory then cannot "create" (createReason .isDirectory)
    else if mode = .write ∧ st.settings.has .noclobber ∧ node.isFile then
      cannot "create" "File exists".toList
    else
      match st.tree.resolve name with
      | .ok names => openNames names mode
      | .error f => cannot "create" (createReason f)
  | .error f =>
    if ¬ mode.creates then cannot "open" (openReason f)
    else
      match st.tree.target name with
      | .ok names => openNames names mode
      | .error f =>
        let parents := (path.reverse.dropWhile (· = '/')).reverse
        let missing := path.getLast? = some '/' && (st.tree.target (pathOf parents)).isOk &&
          !st.tree.present (pathOf parents)
        cannot "create" (createReason (if missing then .isDirectory else f))

/-- Makes a descriptor stand for what another one does. -/
def duplicate (descriptor n : Nat) : Act Unit := do
  if descriptor ≠ n then
    match (← get).channels.lookup n with
    | some id => setChannel descriptor (some id)
    | none => fail (numeral n ++ ": Bad file descriptor".toList)

def Redirection.descriptor : Redirection → Nat
  | .file d _ _ | .duplicate d _ | .document d _ => d

/-- Makes descriptors what they were before. -/
def State.withChannels (st : State) (before : List (Nat × Nat)) (descriptors : List Nat) : State :=
  let others := st.channels.filter fun c => !descriptors.contains c.1
  let old := before.filter fun c => descriptors.contains c.1
  { st with channels := old ++ others }

end DockLint.Shell

import CanvasLint.Command.Run

/-!
The command line. What a command can look at is read from the disk first; what the command does with
it is decided without looking at the disk again, and then its files are written and its output is
printed.
-/
namespace CanvasLint

/-- The names that a configuration or a rule set can have in a directory. -/
def neighborNames : List String :=
  ConfigSource.projectNames ++ [ConfigSource.personalName, ConfigSource.ruleSetName]

/-- The files that a command is asked to read or to write. -/
def Command.Invocation.files (i : Command.Invocation) : List Path :=
  match i.request with
  | .check request => request.document :: i.config.toList ++ request.rules.toList
  | .init _ => [Command.Init.file]
  | .contrast _ | .listRules | .help | .version => []

/-- The text of a file, if it can be read and is a text. -/
def textOnDisk (file : String) : IO (Option String) := do
  try
    return some (← IO.FS.readFile file)
  catch _ =>
    return none

/-- Where a path leads to on the disk, without links on the way. -/
def pathOnDisk (p : Path) : IO (Option Path) := do
  try
    return some (.ofText (← IO.FS.realPath p.text).toString)
  catch _ =>
    return none

/-- What is on the disk at a location. A link is taken to lead where it ends up. Other things than
regular files are read only if they are asked for, since there may be no end to them. -/
def entryOnDisk (location : Location) (asked : Bool) : IO (Option Entry) := do
  let file := location.path.text
  let found := (← IO.currentDir) / file
  let entry (type : IO.FS.FileType) : IO Entry := do
    match type with
    | .dir => return .directory
    | .file => return .file (← textOnDisk file)
    | .symlink | .other => return .device (← if asked then textOnDisk file else pure none)
  try
    match (← found.symlinkMetadata).type with
    | .symlink =>
      match ← pathOnDisk location.path with
      | some target => return some (.link target)
      | none => return some (← entry (← found.metadata).type)
    | type => return some (← entry type)
  catch _ =>
    return none

/-- What is met on the disk along the names of a path. -/
def survey (asked : Bool) (at_ : Location) : List String → IO (List (Location × Entry))
  | [] => return []
  | name :: names => do
    let below := at_.next name
    let last := asked && names.isEmpty
    match ← entryOnDisk below last with
    | none => return []
    | some (.link target) =>
      let end_ := (← entryOnDisk target.names last).toList.map (target.names, ·)
      return (below, .link target) :: end_ ++ (← survey asked target.names names)
    | some entry => return (below, entry) :: (← survey asked below names)

def loadPlace (words : List String) : IO Command.Place := do
  let current : Location := (Path.ofText (← IO.currentDir).toString).names
  let home := (← IO.getEnv "HOME").map Path.ofText
  let personal := ConfigSource.personalDirectory (← IO.getEnv "SPEC_LINT_CONFIG_DIR") home
  let .ok invocation := Command.Invocation.ofWords words | return { files := ⟨[], current⟩, personal }
  let mut directories := personal.toList ++ invocation.config.toList.filterMap Path.parent?
  let mut entries := []
  if let .check request := invocation.request then
    let directory := ConfigSource.directoryOf request.document
    entries := ← survey false (current.origin directory.start) directory.names
    directories := directories ++ ((← pathOnDisk directory).getD directory).ancestors
  for p in invocation.files do
    entries := entries ++ (← survey true (current.origin p.start) p.names)
  for p in directories.flatMap fun directory => neighborNames.map directory.child do
    entries := entries ++ (← survey false (current.origin p.start) p.names)
  return { files := ⟨entries, current⟩, personal }

end CanvasLint

def main (words : List String) : IO UInt32 := do
  let outcome := CanvasLint.Command.run (← CanvasLint.loadPlace words) words
  for (file, content) in outcome.written do
    IO.FS.writeFile file.text content
  IO.print outcome.output
  match outcome.ending with
  | .misused misuse => IO.eprintln s!"error: {misuse.message}"
  | .failed failure =>
    IO.eprintln s!"Error: {failure.message}"
    if let some detail := failure.detail then IO.eprintln s!"\n  {detail}"
  | .done _ => pure ()
  return UInt32.ofNat outcome.exit

import CanvasLint.Files.Tree

/-!
Where the configuration of a scan comes from. A path that is asked for is taken as it is. Otherwise
the nearest configuration counts that lies beside the document or in a directory above it, then the
one in the user's own directory. A rule set beside the configuration belongs to it.
-/
namespace CanvasLint

inductive ConfigSource where
  | requested (file : Path)
  | project (file : Path)
  | personal (file : Path)
  /-- No file; everything is as usual. -/
  | none
deriving DecidableEq, Repr

namespace ConfigSource

/-- The names of configurations in a directory, the preferred one first. -/
def projectNames : List String :=
  ["spec-lint.toml", ".spec-lint.toml"]

def personalName : String := "config.toml"

def ruleSetName : String := "rules.json"

def file? : ConfigSource → Option Path
  | requested file | project file | personal file => some file
  | none => Option.none

/-- The rule set beside the configuration, if there is one. -/
def ruleSet? (t : FileTree) (source : ConfigSource) : Option Path := do
  let directory ← (← source.file?).parent?
  let candidate := directory.child ruleSetName
  guard (t.isFile candidate)
  return candidate

/-- The configuration that lies in a directory. -/
def projectFile? (t : FileTree) (directory : Path) : Option Path :=
  (projectNames.map directory.child).find? t.isFile

/-- The configuration in the user's own directory. -/
def personalFile? (t : FileTree) (directory : Path) : Option Path :=
  [directory.child personalName].find? t.isFile

/-- The source for a scan that starts in a directory. -/
def nearest (t : FileTree) (start : Path) (request : Option Path) (personalDirectory : Option Path) :
    ConfigSource :=
  match request with
  | some file => requested file
  | Option.none =>
    match start.ancestors.findSome? (projectFile? t) with
    | some file => project file
    | Option.none =>
      match personalDirectory >>= personalFile? t with
      | some file => personal file
      | Option.none => none

/-- The directory in which a document lies; a lone name lies in the current directory. -/
def directoryOf (document : Path) : Path :=
  match document.parent? with
  | some directory => if directory.isEmpty then ⟨.here, []⟩ else directory
  | Option.none => ⟨.here, []⟩

/-- The source for the scan of a document. The directories above it are those of the file tree; for
a document in no directory they are those that its path names. -/
def ofDocument (t : FileTree) (document : Path) (request personalDirectory : Option Path) :
    ConfigSource :=
  let directory := directoryOf document
  nearest t ((t.absolute? directory).getD directory) request personalDirectory

/-- The user's own directory: one that is asked for, or a hidden one in the home directory. -/
def personalDirectory (request : Option String) (home : Option Path) : Option Path :=
  match request with
  | some directory => some (.ofText directory)
  | Option.none => home.map (·.child ".spec-lint")

end ConfigSource

end CanvasLint

import CanvasLint.Files.Path

/-!
Trees of files, as a command sees them: what is where, and the directory in which the command runs.
A path is followed name by name; every name on the way has to be met in a directory, and a link on
the way stands for the path that it holds.
-/
namespace CanvasLint

/-- The names on the way from the root directory. -/
abbrev Location := List String

namespace Location

/-- One name further. -/
def next (at_ : Location) (name : String) : Location :=
  if Path.isIdle name then at_
  else if name = ".." then at_.dropLast
  else at_ ++ [name]

def path (at_ : Location) : Path :=
  ⟨.root, at_⟩

/-- Where a path leads from, when relative paths lead from here. -/
def origin (at_ : Location) : Path.Start → Location
  | .root => []
  | .here | .bare => at_

end Location

inductive Entry where
  /-- A regular file. It has no text if it cannot be read or is not a text. -/
  | file (text? : Option String)
  /-- Something else that may be read, such as a pipe. -/
  | device (text? : Option String)
  | directory
  | link (target : Path)
deriving DecidableEq, Repr

namespace Entry

/-- A regular file with this text. -/
@[match_pattern] abbrev text (content : String) : Entry :=
  .file (some content)

def text? : Entry → Option String
  | file text? | device text? => text?
  | directory | link _ => none

def isFile : Entry → Bool
  | file _ => true
  | device _ | directory | link _ => false

end Entry

/-- Why a path leads nowhere, or why nothing can be written there. -/
inductive FileFault where
  | missing
  | notDirectory
  | isDirectory
  | tooManyLinks
deriving DecidableEq, Repr

def FileFault.message : FileFault → String
  | missing => "No such file or directory (os error 2)"
  | notDirectory => "Not a directory (os error 20)"
  | isDirectory => "Is a directory (os error 21)"
  | tooManyLinks => "Too many levels of symbolic links (os error 40)"

structure FileTree where
  entries : List (Location × Entry)
  /-- The directory in which the command runs. -/
  current : Location

namespace FileTree

/-- What is at a location. A directory need not be listed when something below it is. -/
def at? (t : FileTree) (location : Location) : Option Entry :=
  match t.entries.lookup location with
  | some entry => some entry
  | none =>
    if location.isPrefixOf t.current || t.entries.any (fun (below, _) => location.isPrefixOf below)
    then some .directory
    else none

/-! ### Following paths -/

/-- Goes along names up to the first link. Then the names that the link holds come before those that
are left, and `jump` goes on with them. -/
def followWith (t : FileTree) (jump : Location → List String → Except FileFault Location)
    (at_ : Location) : List String → Except FileFault Location
  | [] => .ok at_
  | name :: names =>
    match t.at? at_ with
    | none => .error .missing
    | some .directory =>
      match t.at? (at_.next name) with
      | some (.link target) => jump (at_.origin target.start) (target.names ++ names)
      | _ => t.followWith jump (at_.next name) names
    | some _ => .error .notDirectory

/-- The location that names lead to, over at most so many links. -/
def follow (t : FileTree) : Nat → Location → List String → Except FileFault Location
  | 0 => t.followWith fun _ _ => .error .tooManyLinks
  | links + 1 => t.followWith (t.follow links)

/-- How many links a path may lead over. -/
def linkLimit : Nat := 40

/-- Where a path leads from. -/
def origin (t : FileTree) (start : Path.Start) : Location :=
  t.current.origin start

/-- The location that a path leads to, which need not hold anything. The empty path leads nowhere. -/
def locate (t : FileTree) (p : Path) : Except FileFault Location :=
  if p.isEmpty then .error .missing else t.follow linkLimit (t.origin p.start) p.names

/-- What a path leads to. -/
def reached? (t : FileTree) (p : Path) : Option Entry :=
  match t.locate p with
  | .ok location => t.at? location
  | .error _ => none

/-- The text of what is at a path. -/
def read? (t : FileTree) (p : Path) : Option String :=
  t.reached? p >>= Entry.text?

/-- Whether a path leads to a regular file, readable or not. -/
def isFile (t : FileTree) (p : Path) : Bool :=
  (t.reached? p).any Entry.isFile

/-- The path from the root directory to what a path leads to. There are no links on it. -/
def absolute? (t : FileTree) (p : Path) : Option Path :=
  match t.locate p with
  | .ok location => (t.at? location).map fun _ => location.path
  | .error _ => none

/-! ### Writing -/

/-- The tree with a file that is written anew. -/
def put (t : FileTree) (location : Location) (content : String) : FileTree :=
  { t with entries := (location, .text content) :: t.entries }

/-- The tree after a text is written at a path. A device takes it in. -/
def write (t : FileTree) (p : Path) (content : String) : Except FileFault FileTree := do
  let location ← t.locate p
  match t.at? location with
  | some .directory => .error .isDirectory
  | some (.device _) => return t
  | some (.file _) | some (.link _) | none => return t.put location content

end FileTree

end CanvasLint

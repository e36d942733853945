import CanvasLint.Text.Pieces

/-!
Paths as they are written: names between slashes, possibly with a slash or a dot in front. A path
keeps its spelling, so a path that is shown looks the way it was given. Only what lies above it is
found by meaning: empty names and dots inside a path are no steps on the way.
-/
namespace CanvasLint

/-- What stands in front of the first name. -/
inductive Path.Start where
  /-- A slash: the path leads from the root directory. -/
  | root
  /-- A dot: the path says that it leads from the current directory. -/
  | here
  /-- Nothing: the path leads from the current directory, or is empty. -/
  | bare
deriving DecidableEq, Repr

structure Path where
  start : Path.Start
  /-- What stands between slashes, with empty names for slashes that follow each other. -/
  names : List String
deriving DecidableEq, Repr

namespace Path

def ofText (s : String) : Path :=
  match Text.split '/' s with
  | "" :: name :: names => ⟨.root, name :: names⟩
  | "." :: names => ⟨.here, names⟩
  | names => ⟨.bare, names⟩

def text (p : Path) : String :=
  match p.start with
  | .root => "/" ++ "/".intercalate p.names
  | .here => "/".intercalate ("." :: p.names)
  | .bare => "/".intercalate p.names

/-- The name stays where it is met. -/
def isIdle (name : String) : Bool :=
  name == "" || name == "."

/-- The names down to the last one that is a step. -/
def stepping (names : List String) : List String :=
  (names.reverse.dropWhile isIdle).reverse

theorem length_stepping_le (names : List String) :
    (stepping names).length ≤ names.length := by
  have h := (List.dropWhile_suffix isIdle (l := names.reverse)).length_le
  simpa [stepping] using h

/-- The path without its last step. A path without steps has nothing above it, but for a dot,
above which is the empty path. -/
def parent? (p : Path) : Option Path :=
  match stepping p.names with
  | [] =>
    match p.start with
    | .here => some ⟨.bare, []⟩
    | .root | .bare => none
  | name :: names => some ⟨p.start, stepping (name :: names).dropLast⟩

/-- How many times one can go up at most. -/
def height (p : Path) : Nat :=
  p.names.length + if p.start = .here then 1 else 0

theorem height_parent_lt {p q : Path} (h : p.parent? = some q) : q.height < p.height := by
  unfold parent? at h
  have le := length_stepping_le p.names
  split at h
  · split at h
    · next hs => cases h; simp [height, hs]
    · cases h
    · cases h
  · next name names hn =>
    cases h
    have shorter := length_stepping_le (name :: names).dropLast
    rw [hn] at le
    simp only [List.length_dropLast, List.length_cons] at shorter le
    simp only [height]
    omega

/-- The path and everything above it, from the inside out. -/
def ancestors (p : Path) : List Path :=
  p :: match h : p.parent? with
    | some q =>
      have := height_parent_lt h
      q.ancestors
    | none => []
termination_by p.height

/-- The path of a name in the directory of this path. -/
def child (p : Path) (name : String) : Path :=
  { p with names := (if p.names.getLast? = some "" then p.names.dropLast else p.names) ++ [name] }

def isEmpty (p : Path) : Bool :=
  p.text.isEmpty

example : (ofText "./d//e/.").ancestors.map text = ["./d//e/.", "./d", ".", ""] := by
  decide +kernel

example : (ofText "/d/e").ancestors.map text = ["/d/e", "/d", "/"] := by decide +kernel

example : ["", "d", "d/", ".", "/"].map (fun s => ((ofText s).child "f").text)
    = ["f", "d/f", "d/f", "./f", "/f"] := by decide +kernel

end Path

end CanvasLint

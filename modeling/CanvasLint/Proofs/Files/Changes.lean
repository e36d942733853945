import CanvasLint.Proofs.Files.Leads

/-! Trees in which files come, go, or say something else. A path is followed through directories and
over links only, so it leads to the same place in both trees; and what it leads to is the same unless
it is a file that has changed. -/
namespace CanvasLint

variable {t t' : FileTree} {p d : Path} {place start l : Location} {name content : String}

namespace Entry

/-- Paths lead on from what is here: it is a directory, or a link. -/
def LeadsOn : Entry → Prop
  | directory | link _ => True
  | file _ | device _ => False

instance : DecidablePred LeadsOn
  | directory | link _ => isTrue trivial
  | file _ | device _ => isFalse id

/-- What is left of an entry when its text is forgotten. -/
def silent : Entry → Entry
  | file _ => .file none
  | device _ => .device none
  | directory => .directory
  | link target => .link target

theorem silent_eq_iff {entry entry' : Entry} (leadsOn : entry.LeadsOn) :
    entry'.silent = entry ↔ entry' = entry := by
  cases entry with
  | file | device => cases leadsOn
  | directory | link => cases entry' <;> simp [silent]

end Entry

namespace FileTree

/-- A directory holds a regular file of this name, or a link to one. -/
def Holds (t : FileTree) (d : Path) (name : String) : Prop :=
  ∃ l text?, t.LeadsTo (d.child name) l ∧ t.at? l = some (.file text?)

theorem isFile_iff :
    t.isFile p = true ↔ ∃ l text?, t.LeadsTo p l ∧ t.at? l = some (.file text?) := by
  rw [isFile, Option.any_eq_true]
  constructor
  · rintro ⟨entry, found, file⟩
    obtain ⟨l, leads, found⟩ := reached?_eq_some.mp found
    cases entry with
    | file text? => exact ⟨l, text?, leads, found⟩
    | device | directory | link => cases file
  · rintro ⟨l, text?, leads, found⟩
    exact ⟨_, reached?_eq_some.mpr ⟨l, leads, found⟩, rfl⟩

theorem isFile_child : t.isFile (d.child name) = true ↔ t.Holds d name :=
  isFile_iff

theorem absolute?_eq_some {q : Path} :
    t.absolute? p = some q ↔ ∃ l, t.LeadsTo p l ∧ (t.at? l).isSome ∧ l.path = q := by
  simp only [absolute?, ← locate_eq_ok]
  cases t.locate p with
  | error fault => simp
  | ok l => simp [Option.isSome_iff_exists]

/-! ### The same directories -/

/-- The same places are directories in both trees, and links stay as they are. -/
structure SameDirectories (t t' : FileTree) : Prop where
  current : t'.current = t.current
  directory : ∀ l, t'.at? l = some .directory ↔ t.at? l = some .directory
  link : ∀ l target, t'.at? l = some (.link target) ↔ t.at? l = some (.link target)

namespace SameDirectories

variable (same : SameDirectories t t')
include same

theorem symm : SameDirectories t' t :=
  ⟨same.current.symm, fun l => (same.directory l).symm, fun l target => (same.link l target).symm⟩

theorem leads {names : List String} {n : ℕ} {at_ : Location} (leads : t.Leads at_ names n l) :
    t'.Leads at_ names n l := by
  induction leads with
  | here at_ => exact .here at_
  | step directory unlinked _ ih =>
    exact .step ((same.directory _).mpr directory)
      (fun target linked => unlinked target ((same.link _ _).mp linked)) ih
  | link directory linked _ ih =>
    exact .link ((same.directory _).mpr directory) ((same.link _ _).mpr linked) ih

theorem reaches (reaches : t.Reaches d l) : t'.Reaches d l := by
  obtain ⟨n, few, leads⟩ := reaches
  refine ⟨n, few, ?_⟩
  rw [origin, same.current]
  exact same.leads leads

theorem leadsTo_iff : t'.LeadsTo p l ↔ t.LeadsTo p l :=
  and_congr_right fun _ => ⟨same.symm.reaches, same.reaches⟩

end SameDirectories

/-! ### Changes of a single file -/

/-- The file at a place comes, goes, or says something else; all else stays as it is. -/
structure ChangesFile (place : Location) (t t' : FileTree) : Prop where
  current : t'.current = t.current
  elsewhere : ∀ l, l ≠ place → t'.at? l = t.at? l
  before : ∀ entry ∈ t.at? place, ¬ entry.LeadsOn
  after : ∀ entry ∈ t'.at? place, ¬ entry.LeadsOn

theorem ChangesFile.symm (changes : ChangesFile place t t') : ChangesFile place t' t :=
  ⟨changes.current.symm, fun l other => (changes.elsewhere l other).symm, changes.after,
    changes.before⟩

theorem ChangesFile.sameDirectories (changes : ChangesFile place t t') : SameDirectories t t' := by
  have entry (e : Entry) (leadsOn : e.LeadsOn) (l : Location) :
      t'.at? l = some e ↔ t.at? l = some e := by
    by_cases here : l = place
    · subst here
      exact iff_of_false (fun there => changes.after e there leadsOn)
        fun there => changes.before e there leadsOn
    · rw [changes.elsewhere l here]
  exact ⟨changes.current, entry .directory trivial, fun l target => entry (.link target) trivial l⟩

/-- A file that a directory holds elsewhere is still there, and no other has come. -/
theorem ChangesFile.holds_iff (changes : ChangesFile place t t')
    (unseen : ¬ t.LeadsTo (d.child name) place) : t'.Holds d name ↔ t.Holds d name := by
  rw [Holds, Holds]
  refine exists_congr fun l => exists_congr fun text? => ?_
  rw [changes.sameDirectories.leadsTo_iff]
  refine and_congr_right fun leads => ?_
  rw [changes.elsewhere l fun here => unseen (here ▸ leads)]

theorem at?_put_self : (t.put place content).at? place = some (.text content) := by
  simp [put, at?]

/-- Something that is listed lies at a place or below it, or the command runs there. -/
def Encloses (t : FileTree) (l : Location) : Prop :=
  l <+: t.current ∨ ∃ entry ∈ t.entries, l <+: entry.1

private theorem encloses_iff (t : FileTree) (l : Location) :
    (l.isPrefixOf t.current || t.entries.any fun (below, _) => l.isPrefixOf below) = true ↔
      t.Encloses l := by
  simp [Encloses]

/-- A place is known by what is listed there, and by what it encloses. -/
theorem at?_congr (listed : t'.entries.lookup l = t.entries.lookup l)
    (encloses : t'.Encloses l ↔ t.Encloses l) : t'.at? l = t.at? l := by
  rw [← encloses_iff, ← encloses_iff, ← Bool.eq_iff_iff] at encloses
  rw [at?, at?, listed, encloses]

theorem encloses_of_directory (directory : t.at? l = some .directory) : t.Encloses l := by
  rw [at?] at directory
  split at directory
  · rename_i entry listed
    obtain ⟨before, after, split, -⟩ := List.lookup_eq_some_iff.mp listed
    exact .inr ⟨(l, entry), by simp [split], List.prefix_rfl⟩
  · split at directory
    · rename_i encloses
      exact (encloses_iff t l).mp encloses
    · cases directory

/-- A file that is written into a directory changes nothing else. -/
theorem changesFile_put (directory : t.at? start = some .directory)
    (free : ∀ entry ∈ t.at? (start ++ [name]), ¬ entry.LeadsOn) :
    ChangesFile (start ++ [name]) t (t.put (start ++ [name]) content) where
  current := rfl
  elsewhere l other := by
    have passed : (l == start ++ [name]) = false := beq_eq_false_iff_ne.mpr other
    refine at?_congr (by rw [put, List.lookup_cons, passed]) ?_
    -- what encloses the new file encloses its directory, which was there
    have above (below : l <+: start ++ [name]) : t.Encloses l := by
      have inside : l <+: start := (List.prefix_concat_iff.mp below).resolve_left other
      rcases encloses_of_directory directory with encloses | ⟨entry, member, encloses⟩
      · exact .inl (inside.trans encloses)
      · exact .inr ⟨entry, member, inside.trans encloses⟩
    constructor
    · rintro (encloses | ⟨entry, member, encloses⟩)
      · exact .inl encloses
      · rcases List.mem_cons.mp member with rfl | member
        · exact above encloses
        · exact .inr ⟨entry, member, encloses⟩
    · rintro (encloses | ⟨entry, member, encloses⟩)
      · exact .inl encloses
      · exact .inr ⟨entry, List.mem_cons_of_mem _ member, encloses⟩
  before := free
  after entry there := by
    rw [at?_put_self] at there
    cases there
    exact not_false

/-! ### Changes of what files say -/

/-- Files may say something else. They are where they were, and so is everything else. -/
structure Rewrites (t t' : FileTree) : Prop where
  current : t'.current = t.current
  silent : ∀ l, (t'.at? l).map Entry.silent = (t.at? l).map Entry.silent

namespace Rewrites

variable (rewrites : Rewrites t t')
include rewrites

theorem sameDirectories : SameDirectories t t' := by
  have entry (e : Entry) (leadsOn : e.LeadsOn) (l : Location) :
      t'.at? l = some e ↔ t.at? l = some e := by
    have kept (t : FileTree) : t.at? l = some e ↔ (t.at? l).map Entry.silent = some e := by
      cases t.at? l <;> simp [Entry.silent_eq_iff leadsOn]
    rw [kept, kept, rewrites.silent]
  exact ⟨rewrites.current, entry .directory trivial, fun l target => entry (.link target) trivial l⟩

theorem exists_file_iff (l : Location) :
    (∃ text?, t'.at? l = some (.file text?)) ↔ ∃ text?, t.at? l = some (.file text?) := by
  have kept (t : FileTree) : (∃ text?, t.at? l = some (.file text?)) ↔
      (t.at? l).map Entry.silent = some (.file none) := by
    rcases t.at? l with _ | _ | _ | _ | _ <;> simp [Entry.silent]
  rw [kept, kept, rewrites.silent]

theorem isFile (p : Path) : t'.isFile p = t.isFile p := by
  rw [Bool.eq_iff_iff, isFile_iff, isFile_iff]
  simp only [exists_and_left, rewrites.sameDirectories.leadsTo_iff, rewrites.exists_file_iff]

theorem absolute? (p : Path) : t'.absolute? p = t.absolute? p := by
  have there (l : Location) : (t'.at? l).isSome = (t.at? l).isSome := by
    simpa using congrArg Option.isSome (rewrites.silent l)
  ext q
  simp only [absolute?_eq_some, rewrites.sameDirectories.leadsTo_iff, there]

end Rewrites

/-- A file that was there and still is may say anything. -/
theorem ChangesFile.rewrites (changes : ChangesFile place t t')
    (kept : (t'.at? place).map Entry.silent = (t.at? place).map Entry.silent) : Rewrites t t' where
  current := changes.current
  silent l := by
    by_cases here : l = place
    · rw [here, kept]
    · rw [changes.elsewhere l here]

end FileTree

end CanvasLint

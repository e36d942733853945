import CanvasLint.Config.Source
import CanvasLint.Proofs.Files.Changes

/-! Where a configuration is found. The search goes up from its start and ends in the first directory
that has a configuration, so it has looked at no other paths than those of configurations in the
directories on its way. A change elsewhere is nothing to it; but a directory on its way counts as such
even if it is also the user's own, and a link there may lead anywhere. -/
namespace CanvasLint.ConfigSource

open FileTree (ChangesFile Holds)
open CanvasLint.Path (Climbs)

variable {t t' : FileTree} {start directory d file far : Path} {passed beyond : List Path}
  {request personal : Option Path} {source : ConfigSource} {place : Location} {name content : String}

/-! ### What a directory offers -/

/-- The configuration in a directory. Only a regular file is one, and the plain name goes first. -/
inductive Offers (t : FileTree) (directory : Path) : Path → Prop
  | plain (held : t.Holds directory "spec-lint.toml") :
      Offers t directory (directory.child "spec-lint.toml")
  | hidden (unheld : ¬ t.Holds directory "spec-lint.toml")
      (held : t.Holds directory ".spec-lint.toml") :
      Offers t directory (directory.child ".spec-lint.toml")

theorem isStep_of_mem_projectNames (listed : name ∈ projectNames) : Path.IsStep name := by
  simp only [projectNames, List.mem_cons, List.not_mem_nil, or_false] at listed
  rcases listed with rfl | rfl <;> exact ⟨by decide, by decide⟩

theorem projectFile?_eq_some : projectFile? t directory = some file ↔ Offers t directory file := by
  have held (name : String) : t.isFile (directory.child name) = true ↔ t.Holds directory name :=
    FileTree.isFile_child
  have plain := held "spec-lint.toml"
  have hidden := held ".spec-lint.toml"
  rw [projectFile?, projectNames, List.map_cons, List.map_cons, List.map_nil, List.find?_cons]
  split
  · rename_i found
    rw [Option.some.injEq]
    constructor
    · rintro rfl
      exact .plain (plain.mp found)
    · intro offers
      cases offers with
      | plain => rfl
      | hidden unheld => exact absurd (plain.mp found) unheld
  · rename_i missing
    have unheld : ¬ t.Holds directory "spec-lint.toml" := by
      rw [← plain, missing]
      exact Bool.false_ne_true
    rw [List.find?_singleton]
    split
    · rename_i found
      rw [Option.some.injEq]
      constructor
      · rintro rfl
        exact .hidden unheld (hidden.mp found)
      · intro offers
        cases offers with
        | plain held => exact absurd held unheld
        | hidden => rfl
    · rename_i missing
      refine iff_of_false (Option.some_ne_none _).symm fun offers => ?_
      cases offers with
      | plain held => exact unheld held
      | hidden _ held => exact missing (hidden.mpr held)

theorem projectFile?_eq_none : projectFile? t directory = Option.none ↔
    ∀ file, ¬ Offers t directory file := by
  simp only [Option.eq_none_iff_forall_ne_some, ne_eq, projectFile?_eq_some]

theorem personalFile?_eq_some : personalFile? t directory = some file ↔
    t.Holds directory personalName ∧ file = directory.child personalName := by
  have held : t.isFile (directory.child personalName) = true ↔ t.Holds directory personalName :=
    FileTree.isFile_child
  rw [personalFile?, List.find?_singleton]
  split
  · rename_i found
    rw [Option.some.injEq, eq_comm]
    exact (and_iff_right (held.mp found)).symm
  · rename_i missing
    exact iff_of_false (Option.some_ne_none _).symm fun ⟨there, _⟩ => missing (held.mpr there)

/-! ### The search -/

/-- On the way up from the start nothing is offered before this configuration. -/
structure Nearest (t : FileTree) (start : Path) (passed : List Path) (directory file : Path) :
    Prop where
  climbs : Climbs start passed directory
  nothing : ∀ d ∈ passed, ∀ file, ¬ Offers t d file
  offers : Offers t directory file

/-- The source of the configuration for a start, a file that is asked for and the user's own
directory: the first there is in this order. -/
inductive Found (t : FileTree) (start : Path) (request personal : Option Path) :
    ConfigSource → Prop
  | requested {file : Path} (asked : request = some file) :
      Found t start request personal (.requested file)
  | project {passed : List Path} {directory file : Path} (unasked : request = Option.none)
      (nearest : Nearest t start passed directory file) :
      Found t start request personal (.project file)
  | personal {directory : Path} (unasked : request = Option.none)
      (nothing : ∀ passed d, Climbs start passed d → ∀ file, ¬ Offers t d file)
      (own : personal = some directory) (held : t.Holds directory personalName) :
      Found t start request personal (.personal (directory.child personalName))
  | none (unasked : request = Option.none)
      (nothing : ∀ passed d, Climbs start passed d → ∀ file, ¬ Offers t d file)
      (unheld : ∀ directory, personal = some directory → ¬ t.Holds directory personalName) :
      Found t start request personal .none

theorem findSome?_eq_some : start.ancestors.findSome? (projectFile? t) = some file ↔
    ∃ passed directory, Nearest t start passed directory file := by
  rw [List.findSome?_eq_some_iff]
  simp only [projectFile?_eq_some, projectFile?_eq_none]
  constructor
  · rintro ⟨passed, directory, above, listed, offers, nothing⟩
    exact ⟨passed, directory, Path.climbs_iff.mpr ⟨above, listed⟩, nothing, offers⟩
  · rintro ⟨passed, directory, climbs, nothing, offers⟩
    obtain ⟨above, listed⟩ := Path.climbs_iff.mp climbs
    exact ⟨passed, directory, above, listed, offers, nothing⟩

theorem findSome?_eq_none : start.ancestors.findSome? (projectFile? t) = Option.none ↔
    ∀ passed d, Climbs start passed d → ∀ file, ¬ Offers t d file := by
  rw [List.findSome?_eq_none_iff]
  simp only [projectFile?_eq_none]
  constructor
  · intro nothing passed d climbs
    obtain ⟨above, listed⟩ := Path.climbs_iff.mp climbs
    exact nothing d (by simp [listed])
  · intro nothing d member
    obtain ⟨passed, above, listed⟩ := List.append_of_mem member
    exact nothing passed d (Path.climbs_iff.mpr ⟨above, listed⟩)

theorem nearest_of_found (found : Found t start request personal source) :
    nearest t start request personal = source := by
  unfold nearest
  cases found with
  | requested asked => rw [asked]
  | project unasked offered => rw [unasked, findSome?_eq_some.mpr ⟨_, _, offered⟩]
  | personal unasked nothing own held =>
    have given := personalFile?_eq_some.mpr ⟨held, rfl⟩
    rw [unasked, findSome?_eq_none.mpr nothing, own, Option.bind_eq_bind, Option.bind_some, given]
  | none unasked nothing unheld =>
    have absent : (personal >>= personalFile? t) = Option.none := by
      cases own : personal with
      | none => rfl
      | some directory =>
        rw [Option.bind_eq_bind, Option.bind_some, Option.eq_none_iff_forall_ne_some]
        exact fun file given => unheld directory own (personalFile?_eq_some.mp given).1
    rw [unasked, findSome?_eq_none.mpr nothing, absent]

/-- Some source is always found. -/
theorem exists_found (t : FileTree) (start : Path) (request personal : Option Path) :
    ∃ source, Found t start request personal source := by
  cases asked : request with
  | some file => exact ⟨_, .requested rfl⟩
  | none =>
    cases listed : start.ancestors.findSome? (projectFile? t) with
    | some file =>
      obtain ⟨passed, directory, offered⟩ := findSome?_eq_some.mp listed
      exact ⟨_, .project rfl offered⟩
    | none =>
      have nothing := findSome?_eq_none.mp listed
      by_cases own : ∃ directory, personal = some directory ∧ t.Holds directory personalName
      · obtain ⟨directory, own, held⟩ := own
        exact ⟨_, .personal rfl nothing own held⟩
      · exact ⟨_, .none rfl nothing fun directory given held => own ⟨directory, given, held⟩⟩

theorem nearest_eq_iff :
    nearest t start request personal = source ↔ Found t start request personal source := by
  constructor
  · rintro rfl
    obtain ⟨source, found⟩ := exists_found t start request personal
    rwa [nearest_of_found found]
  · exact nearest_of_found

/-! ### Changes that the search does not see -/

/-- The place is that of a name in a directory. -/
def Inside (t : FileTree) (directory : Path) (place : Location) : Prop :=
  place ≠ [] ∧ t.Reaches directory place.dropLast

instance : Decidable (Inside t directory place) :=
  inferInstanceAs (Decidable (_ ∧ _))

/-- The path of a configuration in one of these directories leads to the place. -/
def LooksAt (t : FileTree) (directories : List Path) (place : Location) : Prop :=
  ∃ d ∈ directories, ∃ name ∈ projectNames, t.LeadsTo (d.child name) place

/-- In these directories no configuration is met as a link. -/
def Unlinked (t : FileTree) (directories : List Path) : Prop :=
  ∀ d ∈ directories, ∀ name ∈ projectNames, ¬ t.Linked d name

/-- The place is nothing to a search that ends in a directory: no path that it looks at leads there.
Unless a configuration is a link, that is so if the place lies farther up, or in a directory that is
not on the way, as the user's own need not be, or if the name is not one of a configuration. -/
inductive Aside (t : FileTree) (start : Path) (passed : List Path) (directory : Path)
    (place : Location) : Prop
  | unseen (unseen : ¬ LooksAt t (passed ++ [directory]) place) :
      Aside t start passed directory place
  | farther {beyond : List Path} {far : Path} (plain : start.Plain) (straight : t.Straight start)
      (unlinked : Unlinked t (passed ++ [directory])) (climbs : Climbs directory beyond far)
      (distant : beyond ≠ []) (inside : Inside t far place) : Aside t start passed directory place
  | outside (unlinked : Unlinked t (passed ++ [directory]))
      (outside : ∀ d ∈ passed ++ [directory], ¬ Inside t d place) :
      Aside t start passed directory place
  | renamed (unlinked : Unlinked t (passed ++ [directory]))
      (other : ∀ l, ∀ name ∈ projectNames, place ≠ l ++ [name]) :
      Aside t start passed directory place

/-- A directory that lies farther up has another place than any on the way. -/
theorem reaches_ne_of_farther {l : Location} (plain : start.Plain) (straight : t.Straight start)
    (climbs : Climbs start passed directory) (further : Climbs directory beyond far)
    (distant : beyond ≠ []) (member : d ∈ passed ++ [directory]) (known : t.Reaches d l) :
    ¬ t.Reaches far l := by
  intro known'
  have whole := climbs.trans further
  obtain ⟨plainFar, each⟩ := whole.plain plain
  have met : d ∈ passed ++ beyond := by
    rcases List.mem_append.mp member with member | member
    · exact List.mem_append_left _ member
    · rw [List.mem_singleton.mp member]
      exact List.mem_append_right _ (further.mem_of_farther distant)
  obtain ⟨plainD, origin, fewer⟩ := each d met
  have straightAt {q : Path} (met : q ∈ (passed ++ beyond) ++ [far]) : t.Straight q := by
    obtain ⟨from_, first⟩ := whole.names_prefix plain q met
    exact straight.of_prefix from_ first
  have names := ((straightAt (by simp)).eq_of_plain plainFar known').symm.trans
    ((straightAt (List.mem_append_left _ met)).eq_of_plain plainD known)
  rw [origin, List.append_cancel_left_eq] at names
  exact fewer.ne (congrArg List.length names)

/-- Where the search looks there is no change. -/
theorem Aside.not_looksAt (aside : Aside t start passed directory place)
    (climbs : Climbs start passed directory) : ¬ LooksAt t (passed ++ [directory]) place := by
  -- a configuration that is no link lies in its directory
  have direct (unlinked : Unlinked t (passed ++ [directory]))
      (looks : LooksAt t (passed ++ [directory]) place) :
      ∃ d ∈ passed ++ [directory], ∃ name ∈ projectNames, ∃ l,
        t.Reaches d l ∧ place = l ++ [name] := by
    obtain ⟨d, member, name, listed, leads⟩ := looks
    exact ⟨d, member, name, listed, FileTree.exists_of_leadsTo_child
      (isStep_of_mem_projectNames listed) leads (unlinked d member name listed)⟩
  cases aside with
  | unseen unseen => exact unseen
  | outside unlinked outside =>
    intro looks
    obtain ⟨d, member, name, -, l, known, rfl⟩ := direct unlinked looks
    exact outside d member ⟨by simp, by rwa [List.dropLast_concat]⟩
  | renamed unlinked other =>
    intro looks
    obtain ⟨d, -, name, listed, l, -, same⟩ := direct unlinked looks
    exact other l name listed same
  | farther plain straight unlinked further distant inside =>
    intro looks
    obtain ⟨d, member, name, -, l, known, rfl⟩ := direct unlinked looks
    obtain ⟨-, known'⟩ := inside
    rw [List.dropLast_concat] at known'
    exact reaches_ne_of_farther plain straight climbs further distant member known known'

theorem offers_iff (held : ∀ name ∈ projectNames, (t'.Holds d name ↔ t.Holds d name)) :
    Offers t' d file ↔ Offers t d file := by
  have plain := held "spec-lint.toml" (by decide)
  have hidden := held ".spec-lint.toml" (by decide)
  constructor
  · intro offers
    cases offers with
    | plain there => exact .plain (plain.mp there)
    | hidden unheld there => exact .hidden (mt plain.mpr unheld) (hidden.mp there)
  · intro offers
    cases offers with
    | plain there => exact .plain (plain.mpr there)
    | hidden unheld there => exact .hidden (mt plain.mp unheld) (hidden.mpr there)

/-- The nearest configuration is still the nearest. -/
theorem Nearest.of_changesFile (nearest : Nearest t start passed directory file)
    (changes : ChangesFile place t t') (aside : Aside t start passed directory place) :
    Nearest t' start passed directory file := by
  have same {d : Path} (member : d ∈ passed ++ [directory]) (file : Path) :
      Offers t' d file ↔ Offers t d file :=
    offers_iff fun name listed => changes.holds_iff fun leads =>
      aside.not_looksAt nearest.climbs ⟨d, member, name, listed, leads⟩
  exact ⟨nearest.climbs,
    fun d member file => mt (same (List.mem_append_left _ member) file).mp
      (nearest.nothing d member file),
    (same (by simp) file).mpr nearest.offers⟩

/-- The configuration is the file that is asked for, or else the nearest one on the way up from the
start, or else the user's own, or none. Once one is found on the way up, files may come and go
wherever no path leads that the search has looked at. -/
theorem nearest_found (t : FileTree) (start : Path) (request personal : Option Path) :
    (∀ source, nearest t start request personal = source ↔
      Found t start request personal source) ∧
    ∀ passed directory file, Nearest t start passed directory file →
      ∀ place t', ChangesFile place t t' → Aside t start passed directory place →
        nearest t' start request personal = nearest t start request personal := by
  refine ⟨fun source => nearest_eq_iff, ?_⟩
  intro passed directory file offered place t' changes aside
  cases asked : request with
  | some file' => rfl
  | none =>
    rw [nearest_of_found (.project rfl offered),
      nearest_of_found (.project rfl (offered.of_changesFile changes aside))]

/-- A shop with a configuration for all of its screens. -/
def shopFiles : FileTree where
  entries := [(["home", "shop", "spec-lint.toml"], .text ""),
    (["home", "shop", "screens", ".spec-lint.toml"], .directory),
    (["home", "shop", "screens", "cart.json"], .text "\x7b\x7d"),
    (["home", ".spec-lint", "rules.json"], .text "[]")]
  current := ["home"]

def shopScreens : Path := ⟨.root, ["home", "shop", "screens"]⟩

private theorem shop_nearest : Nearest shopFiles shopScreens [shopScreens] ⟨.root, ["home", "shop"]⟩
    ⟨.root, ["home", "shop", "spec-lint.toml"]⟩ where
  climbs := .up (by decide +kernel) (.here _)
  nothing d member := by
    rw [List.mem_singleton.mp member]
    exact projectFile?_eq_none.mp (by decide +kernel)
  offers := projectFile?_eq_some.mp (by decide +kernel)

/-- Neither a configuration that comes farther up counts, nor one that comes as the user's own, nor a
rule set that comes beside the document. -/
theorem nearest_found_shop :
    let own : Path := ⟨.root, ["home", ".spec-lint"]⟩
    let find (t : FileTree) : ConfigSource := nearest t shopScreens Option.none (some own)
    find shopFiles = .project ⟨.root, ["home", "shop", "spec-lint.toml"]⟩ ∧
      find (shopFiles.put (["home"] ++ ["spec-lint.toml"]) "") = find shopFiles ∧
      find (shopFiles.put (["home", ".spec-lint"] ++ ["config.toml"]) "") = find shopFiles ∧
      find (shopFiles.put (["home", "shop", "screens"] ++ ["rules.json"]) "") = find shopFiles := by
  intro own find
  obtain ⟨first, stays⟩ := nearest_found shopFiles shopScreens Option.none (some own)
  have keeps (start : Location) (name : String)
      (directory : shopFiles.at? start = some .directory)
      (free : ∀ entry ∈ shopFiles.at? (start ++ [name]), ¬ entry.LeadsOn) :
      Aside shopFiles shopScreens [shopScreens] ⟨.root, ["home", "shop"]⟩ (start ++ [name]) →
        find (shopFiles.put (start ++ [name]) "") = find shopFiles :=
    stays _ _ _ shop_nearest _ _ (FileTree.changesFile_put directory free)
  have unlinked : Unlinked shopFiles ([shopScreens] ++ [⟨.root, ["home", "shop"]⟩]) :=
    fun d _ name _ => FileTree.not_linked (by simp [shopFiles])
  refine ⟨(first _).mpr (.project rfl shop_nearest), ?_, ?_, ?_⟩
  · have plain : shopScreens.Plain := ⟨by decide, by decide⟩
    have followed : shopFiles.follow 0 [] shopScreens.names = .ok shopScreens.names := by
      decide +kernel
    have climbs : Climbs ⟨.root, ["home", "shop"]⟩ [⟨.root, ["home", "shop"]⟩] ⟨.root, ["home"]⟩ :=
      .up (by decide +kernel) (.here _)
    exact keeps ["home"] "spec-lint.toml" (by decide +kernel) (by decide +kernel)
      (.farther plain (FileTree.straight_of_follow followed) unlinked climbs
        (List.cons_ne_nil _ _) (by decide +kernel))
  · exact keeps ["home", ".spec-lint"] "config.toml" (by decide +kernel) (by decide +kernel)
      (.outside unlinked (by decide +kernel))
  · refine keeps ["home", "shop", "screens"] "rules.json" (by decide +kernel) (by decide +kernel)
      (.renamed unlinked fun l name listed same => ?_)
    obtain ⟨-, last⟩ := List.append_inj' same rfl
    cases last
    exact absurd listed (by decide)

/-- A shop whose screens share a configuration that lies farther up, by a link to it. -/
def sharedFiles (entries : List (Location × Entry)) : FileTree where
  entries := entries ++ [
    (["home", "shop", "screens", "spec-lint.toml"], .link ⟨.bare, ["..", "..", "shared.toml"]⟩),
    (["home", "shop", "screens", "cart.json"], .text "\x7b\x7d")]
  current := ["home"]

/-- The user's own directory may be the one in which the search starts, and then a configuration that
comes there is nearer than the one that was found. And where the nearest configuration is a link to a
file farther up, it is gone when that file is removed. -/
theorem own_directory_counts :
    let find (t : FileTree) : ConfigSource :=
      nearest t shopScreens Option.none (some shopScreens)
    let place : Location := ["home", "shop", "screens"] ++ ["spec-lint.toml"]
    let shared : Location := ["home"] ++ ["shared.toml"]
    (shopFiles.at? place = Option.none ∧ ChangesFile place shopFiles (shopFiles.put place "") ∧
      Inside shopFiles shopScreens place ∧
      find shopFiles = .project ⟨.root, ["home", "shop", "spec-lint.toml"]⟩ ∧
      find (shopFiles.put place "") ≠ find shopFiles) ∧
    ChangesFile shared (sharedFiles [(shared, .text "")]) (sharedFiles []) ∧
      Inside (sharedFiles [(shared, .text "")]) ⟨.root, ["home"]⟩ shared ∧
      Climbs shopScreens [shopScreens, ⟨.root, ["home", "shop"]⟩] ⟨.root, ["home"]⟩ ∧
      find (sharedFiles [(shared, .text "")]) = .project (shopScreens.child "spec-lint.toml") ∧
      find (sharedFiles []) ≠ find (sharedFiles [(shared, .text "")]) := by
  intro find place shared
  have written : ChangesFile shared (sharedFiles []) (sharedFiles [(shared, .text "")]) :=
    FileTree.changesFile_put (by decide +kernel) (by decide +kernel)
  exact ⟨⟨by decide +kernel, FileTree.changesFile_put (by decide +kernel) (by decide +kernel),
    by decide +kernel, by decide +kernel, by decide +kernel⟩, written.symm, by decide +kernel,
    .up (by decide +kernel) (.up (by decide +kernel) (.here _)), by decide +kernel,
    by decide +kernel⟩

end CanvasLint.ConfigSource

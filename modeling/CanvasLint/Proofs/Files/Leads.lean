import CanvasLint.Files.Tree
import CanvasLint.Proofs.Files.Climbing

/-! Where paths lead. Names lead on one by one, and where one of them is met as a link the names that
it holds come first; the links on the way are counted, since only so many are followed. Without a
link, names that are steps lead to the place that they spell. -/
namespace CanvasLint

variable {t t' : FileTree} {p d : Path} {at_ l l' place : Location} {name : String}
  {names more : List String} {n n' budget : ℕ}

namespace FileTree

/-- From a place names lead to a place, over so many links. -/
inductive Leads (t : FileTree) : Location → List String → ℕ → Location → Prop
  | here (at_ : Location) : Leads t at_ [] 0 at_
  | step {at_ : Location} {name : String} {names : List String} {n : ℕ} {l : Location}
      (directory : t.at? at_ = some .directory)
      (unlinked : ∀ target, t.at? (at_.next name) ≠ some (.link target))
      (further : Leads t (at_.next name) names n l) : Leads t at_ (name :: names) n l
  | link {at_ : Location} {name : String} {names : List String} {target : Path} {n : ℕ}
      {l : Location} (directory : t.at? at_ = some .directory)
      (linked : t.at? (at_.next name) = some (.link target))
      (further : Leads t (at_.origin target.start) (target.names ++ names) n l) :
      Leads t at_ (name :: names) (n + 1) l

/-- The place of a directory. The empty path stands for the directory in which the command runs. -/
def Reaches (t : FileTree) (d : Path) (l : Location) : Prop :=
  ∃ n ≤ linkLimit, t.Leads (t.origin d.start) d.names n l

/-- The path leads to a place, where there need not be anything. -/
def LeadsTo (t : FileTree) (p : Path) (l : Location) : Prop :=
  p.isEmpty = false ∧ t.Reaches p l

/-! ### Following names -/

theorem followWith_cons_eq_ok {jump : Location → List String → Except FileFault Location} :
    t.followWith jump at_ (name :: names) = .ok l ↔ t.at? at_ = some .directory ∧
      ((∃ target, t.at? (at_.next name) = some (.link target) ∧
          jump (at_.origin target.start) (target.names ++ names) = .ok l) ∨
        (∀ target, t.at? (at_.next name) ≠ some (.link target)) ∧
          t.followWith jump (at_.next name) names = .ok l) := by
  rw [followWith]
  rcases t.at? at_ with _ | _ | _ | _ | _
  case some.directory => rcases t.at? (at_.next name) with _ | _ | _ | _ | target <;> simp
  all_goals simp

theorem exists_leads_of_follow (followed : t.follow budget at_ names = .ok l) :
    ∃ n ≤ budget, t.Leads at_ names n l := by
  induction budget generalizing at_ names with
  | zero =>
    induction names generalizing at_ with
    | nil =>
      cases followed
      exact ⟨0, le_rfl, .here _⟩
    | cons name names ih =>
      obtain ⟨directory, ⟨target, -, stopped⟩ | ⟨unlinked, further⟩⟩ :=
        followWith_cons_eq_ok.mp followed
      · cases stopped
      · obtain ⟨n, few, leads⟩ := ih further
        exact ⟨n, few, .step directory unlinked leads⟩
  | succ budget more =>
    induction names generalizing at_ with
    | nil =>
      cases followed
      exact ⟨0, Nat.zero_le _, .here _⟩
    | cons name names ih =>
      obtain ⟨directory, ⟨target, linked, further⟩ | ⟨unlinked, further⟩⟩ :=
        followWith_cons_eq_ok.mp followed
      · obtain ⟨n, few, leads⟩ := more further
        exact ⟨n + 1, Nat.succ_le_succ few, .link directory linked leads⟩
      · obtain ⟨n, few, leads⟩ := ih further
        exact ⟨n, few, .step directory unlinked leads⟩

theorem Leads.follow (leads : t.Leads at_ names n l) (few : n ≤ budget) :
    t.follow budget at_ names = .ok l := by
  induction leads generalizing budget with
  | here => cases budget <;> rfl
  | step directory unlinked _ ih =>
    have further := ih few
    cases budget <;> exact followWith_cons_eq_ok.mpr ⟨directory, .inr ⟨unlinked, further⟩⟩
  | link directory linked _ ih =>
    obtain ⟨budget, rfl⟩ := Nat.exists_eq_add_one_of_ne_zero (Nat.ne_zero_of_lt few)
    have further := ih (Nat.le_of_succ_le_succ few)
    exact followWith_cons_eq_ok.mpr ⟨directory, .inl ⟨_, linked, further⟩⟩

theorem follow_eq_ok : t.follow budget at_ names = .ok l ↔ ∃ n ≤ budget, t.Leads at_ names n l :=
  ⟨exists_leads_of_follow, fun ⟨_, few, leads⟩ => leads.follow few⟩

theorem reaches_iff : t.Reaches d l ↔ t.follow linkLimit (t.origin d.start) d.names = .ok l :=
  follow_eq_ok.symm

instance : Decidable (t.Reaches d l) :=
  decidable_of_iff _ reaches_iff.symm

theorem locate_eq_ok : t.locate p = .ok l ↔ t.LeadsTo p l := by
  rw [locate, LeadsTo, reaches_iff]
  cases p.isEmpty <;> simp

instance : Decidable (t.LeadsTo p l) :=
  decidable_of_iff _ locate_eq_ok

theorem Reaches.unique (reaches : t.Reaches d l) (reaches' : t.Reaches d l') : l' = l := by
  rw [reaches_iff] at reaches reaches'
  exact Except.ok.inj (reaches'.symm.trans reaches)

theorem reached?_eq_some {entry : Entry} :
    t.reached? p = some entry ↔ ∃ l, t.LeadsTo p l ∧ t.at? l = some entry := by
  simp only [reached?, ← locate_eq_ok]
  cases t.locate p <;> simp

/-! ### Names one after the other -/

theorem Leads.concat (leads : t.Leads at_ names n l) (directory : t.at? l = some .directory)
    (unlinked : ∀ target, t.at? (l.next name) ≠ some (.link target)) :
    t.Leads at_ (names ++ [name]) n (l.next name) := by
  induction leads with
  | here at_ => exact .step directory unlinked (.here _)
  | step first free _ ih => exact .step first free (ih directory unlinked)
  | link first linked _ ih =>
    rw [List.cons_append]
    refine .link first linked ?_
    rw [← List.append_assoc]
    exact ih directory unlinked

/-- The last name is met in a directory that the names before it lead to; if it is not met as a link
it leads one step further. -/
theorem Leads.of_concat (leads : t.Leads at_ (names ++ [name]) n l') :
    ∃ l, ∃ m ≤ n, t.Leads at_ names m l ∧ t.at? l = some .directory ∧
      (l' = l.next name ∨ ∃ target, t.at? (l.next name) = some (.link target)) := by
  generalize whole : names ++ [name] = path at leads
  induction leads generalizing names with
  | here => exact absurd whole (by simp)
  | @step at_ first rest n l' directory unlinked further ih =>
    cases names with
    | nil =>
      obtain ⟨rfl, rfl⟩ := List.cons.inj whole
      cases further
      exact ⟨at_, 0, le_rfl, .here _, directory, .inl rfl⟩
    | cons first' names =>
      rw [List.cons_append] at whole
      obtain ⟨rfl, rest⟩ := List.cons.inj whole
      obtain ⟨l, m, few, leads, last, ends⟩ := ih rest
      exact ⟨l, m, few, .step directory unlinked leads, last, ends⟩
  | @link at_ first rest target n l' directory linked further ih =>
    cases names with
    | nil =>
      obtain ⟨rfl, rfl⟩ := List.cons.inj whole
      exact ⟨at_, 0, Nat.zero_le _, .here _, directory, .inr ⟨target, linked⟩⟩
    | cons first' names =>
      rw [List.cons_append] at whole
      obtain ⟨rfl, rest⟩ := List.cons.inj whole
      obtain ⟨l, m, few, leads, last, ends⟩ :=
        @ih (target.names ++ names) (by rw [← rest, List.append_assoc])
      exact ⟨l, m + 1, Nat.succ_le_succ few, .link directory linked leads, last, ends⟩

/-- Where names lead over no link, the first of them do so too. -/
theorem Leads.exists_of_append (leads : t.Leads at_ (names ++ more) 0 l) :
    ∃ l', t.Leads at_ names 0 l' := by
  induction names generalizing at_ with
  | nil => exact ⟨at_, .here at_⟩
  | cons name names ih =>
    cases leads with
    | step directory unlinked further =>
      obtain ⟨l', before⟩ := ih further
      exact ⟨l', .step directory unlinked before⟩

theorem next_of_step (step : Path.IsStep name) : l.next name = l ++ [name] := by
  rw [Location.next, if_neg (by simp [step.1]), if_neg step.2]

/-- Over no link, steps lead to the place that they spell. -/
theorem Leads.eq_of_steps (leads : t.Leads at_ names 0 l)
    (steps : ∀ name ∈ names, Path.IsStep name) : l = at_ ++ names := by
  induction names generalizing at_ with
  | nil =>
    cases leads
    exact (List.append_nil _).symm
  | cons name names ih =>
    obtain ⟨step, steps⟩ := List.forall_mem_cons.mp steps
    cases leads with
    | step directory unlinked further =>
      rw [next_of_step step] at further
      rw [ih further steps, List.append_assoc, List.singleton_append]

end FileTree

/-! ### Names in directories -/

namespace Path

/-- The name of a child follows those of its directory, a slash at whose end is not doubled. -/
theorem child_eq (d : Path) (name : String) : ∃ before,
    d.child name = ⟨d.start, before ++ [name]⟩ ∧
      (d.names = before ∨ d.names = before ++ [""]) := by
  rw [child]
  split
  · rename_i slash
    refine ⟨d.names.dropLast, rfl, .inr ?_⟩
    exact (List.dropLast_append_getLast? "" slash).symm
  · exact ⟨d.names, rfl, .inl rfl⟩

end Path

namespace FileTree

/-- In the directory the name is met as a link. -/
def Linked (t : FileTree) (d : Path) (name : String) : Prop :=
  ∃ l target, t.Reaches d l ∧ t.at? (l ++ [name]) = some (.link target)

/-- Where no links are listed none is met. -/
theorem not_linked (free : ∀ entry ∈ t.entries, ∀ target, entry.2 ≠ .link target) :
    ¬ t.Linked d name := by
  rintro ⟨l, target, -, found⟩
  rw [at?] at found
  split at found
  · rename_i entry listed
    cases found
    obtain ⟨before, after, whole, -⟩ := List.lookup_eq_some_iff.mp listed
    exact free (l ++ [name], .link target) (by simp [whole]) target rfl
  · split at found <;> cases found

/-- A child that is not a link lies one step below its directory. -/
theorem exists_of_leadsTo_child (step : Path.IsStep name) (leads : t.LeadsTo (d.child name) place)
    (unlinked : ¬ t.Linked d name) : ∃ l, t.Reaches d l ∧ place = l ++ [name] := by
  obtain ⟨before, same, ends⟩ := d.child_eq name
  obtain ⟨-, n, few, leads⟩ := leads
  rw [same] at leads
  obtain ⟨l, m, fewer, leads, directory, last⟩ := leads.of_concat
  rw [next_of_step step] at last
  have reaches : t.Reaches d l := by
    refine ⟨m, fewer.trans few, ?_⟩
    rcases ends with plain | slash
    · rwa [plain]
    · rw [slash]
      -- a slash at the end stays where it is
      have idle : l.next "" = l := if_pos rfl
      have unlinked (target : Path) : t.at? (l.next "") ≠ some (.link target) := by
        rw [idle, directory]
        exact nofun
      have further := leads.concat directory unlinked
      rwa [idle] at further
  refine ⟨l, reaches, last.resolve_right ?_⟩
  rintro ⟨target, linked⟩
  exact unlinked ⟨l, target, reaches, linked⟩

/-- The start and every directory above it are met without a link. -/
def Straight (t : FileTree) (d : Path) : Prop :=
  ∃ l, t.Leads (t.origin d.start) d.names 0 l

theorem straight_of_follow (followed : t.follow 0 (t.origin d.start) d.names = .ok l) :
    t.Straight d := by
  obtain ⟨n, few, leads⟩ := exists_leads_of_follow followed
  obtain rfl := Nat.le_zero.mp few
  exact ⟨l, leads⟩

/-- What is above a directory is met without a link if the directory is. -/
theorem Straight.of_prefix (straight : t.Straight p) (start : d.start = p.start)
    (first : d.names <+: p.names) : t.Straight d := by
  obtain ⟨l, leads⟩ := straight
  obtain ⟨more, whole⟩ := first
  rw [← whole, ← start] at leads
  exact leads.exists_of_append

/-- The place of a directory that is met without a link is told by its names. -/
theorem Straight.eq_of_plain (straight : t.Straight d) (plain : d.Plain) (reaches : t.Reaches d l) :
    l = t.origin d.start ++ d.names := by
  obtain ⟨l', leads⟩ := straight
  rw [Reaches.unique ⟨0, Nat.zero_le _, leads⟩ reaches]
  exact leads.eq_of_steps plain.steps

end FileTree

end CanvasLint

import CanvasLint.Files.Path
import Mathlib.Data.List.Infix

/-! Ways up. What lies above a path is met one after the other on the way up from it. Where every
name of a path is a step down, each stop on the way has one name less than the one before, so no
directory is met twice. -/
namespace CanvasLint.Path

variable {p q r : Path} {passed beyond names : List Path}

/-- The way up from a path, past others, to one above it or to the path itself. -/
inductive Climbs : Path → List Path → Path → Prop
  | here (p : Path) : Climbs p [] p
  | up {p q r : Path} {passed : List Path} (above : p.parent? = some q)
      (further : Climbs q passed r) : Climbs p (p :: passed) r

theorem ancestors_of_parent (above : p.parent? = some q) : p.ancestors = p :: q.ancestors := by
  rw [ancestors]
  split
  · rename_i q' found
    rw [above] at found
    cases found
    rfl
  · rename_i none
    rw [above] at none
    cases none

theorem ancestors_of_top (top : p.parent? = none) : p.ancestors = [p] := by
  rw [ancestors]
  split
  · rename_i q found
    rw [top] at found
    cases found
  · rfl

/-- The ancestors are listed in the order in which they are met. -/
theorem climbs_iff : Climbs p passed r ↔ ∃ above, p.ancestors = passed ++ r :: above := by
  constructor
  · intro climbs
    induction climbs with
    | here p =>
      cases found : p.parent? with
      | some q => exact ⟨q.ancestors, ancestors_of_parent found⟩
      | none => exact ⟨[], ancestors_of_top found⟩
    | up above _ ih =>
      obtain ⟨rest, listed⟩ := ih
      exact ⟨rest, by rw [ancestors_of_parent above, listed, List.cons_append]⟩
  · rintro ⟨above, listed⟩
    induction passed generalizing p with
    | nil =>
      have first : p.ancestors.head? = some p := by rw [ancestors, List.head?_cons]
      rw [listed] at first
      cases first
      exact .here r
    | cons q passed ih =>
      cases found : p.parent? with
      | none =>
        rw [ancestors_of_top found] at listed
        obtain ⟨-, rest⟩ := List.cons.inj listed
        exact absurd rest.symm (by simp)
      | some q' =>
        rw [ancestors_of_parent found] at listed
        obtain ⟨rfl, rest⟩ := List.cons.inj listed
        exact .up found (ih rest)

theorem Climbs.trans (climbs : Climbs p passed q) (further : Climbs q beyond r) :
    Climbs p (passed ++ beyond) r := by
  induction climbs with
  | here p => exact further
  | up above _ ih => exact .up above (ih further)

theorem Climbs.mem_of_farther (climbs : Climbs p passed r) (farther : passed ≠ []) : p ∈ passed := by
  cases climbs with
  | here => exact absurd rfl farther
  | up above further => exact List.mem_cons_self

/-! ### Paths on which every name is a step down -/

/-- The name leads one step down. -/
def IsStep (name : String) : Prop :=
  isIdle name = false ∧ name ≠ ".."

instance : DecidablePred IsStep :=
  fun _ => inferInstanceAs (Decidable (_ ∧ _))

/-- The path leads down with every name, and has no dot in front either. -/
structure Plain (p : Path) : Prop where
  undotted : p.start ≠ .here
  steps : ∀ name ∈ p.names, IsStep name

theorem stepping_of_steps {names : List String} (steps : ∀ name ∈ names, IsStep name) :
    stepping names = names := by
  have stops : names.reverse.dropWhile isIdle = names.reverse := by
    cases reversed : names.reverse with
    | nil => rfl
    | cons name rest =>
      have member : name ∈ names := by
        rw [← List.mem_reverse, reversed]
        exact List.mem_cons_self
      exact List.dropWhile_cons_of_neg (by simp [(steps name member).1])
  rw [stepping, stops, List.reverse_reverse]

/-- What is above a plain path is plain, leads from where the path does, and lacks its last name. -/
theorem Plain.of_parent (plain : p.Plain) (above : p.parent? = some q) :
    q.Plain ∧ q.start = p.start ∧ q.names <+: p.names ∧ q.names.length < p.names.length := by
  unfold parent? at above
  rw [stepping_of_steps plain.steps] at above
  split at above
  · split at above
    · rename_i dotted
      exact absurd dotted plain.undotted
    · cases above
    · cases above
  · rename_i name names found
    cases above
    have steps : ∀ name ∈ p.names.dropLast, IsStep name :=
      fun name member => plain.steps name (List.mem_of_mem_dropLast member)
    rw [← found, stepping_of_steps steps]
    refine ⟨⟨plain.undotted, steps⟩, rfl, List.dropLast_prefix _, ?_⟩
    rw [List.length_dropLast, found, List.length_cons]
    omega

/-- On the way up from a plain path names are lost. -/
theorem Climbs.plain (climbs : Climbs p passed r) (plain : p.Plain) :
    r.Plain ∧ ∀ q ∈ passed, q.Plain ∧ r.start = q.start ∧ r.names.length < q.names.length := by
  induction climbs with
  | here p => exact ⟨plain, fun _ listed => absurd listed List.not_mem_nil⟩
  | @up p q r passed above further ih =>
    obtain ⟨plainQ, start, -, shorter⟩ := plain.of_parent above
    obtain ⟨plainR, each⟩ := ih plainQ
    refine ⟨plainR, List.forall_mem_cons.mpr ⟨⟨plain, ?_⟩, each⟩⟩
    cases further with
    | here => exact ⟨start, shorter⟩
    | up above' further' =>
      obtain ⟨-, start', shorter'⟩ := each q List.mem_cons_self
      exact ⟨start'.trans start, shorter'.trans shorter⟩

/-- What is met on the way up from a plain path has the first of its names. -/
theorem Climbs.names_prefix (climbs : Climbs p passed r) (plain : p.Plain) :
    ∀ q ∈ passed ++ [r], q.start = p.start ∧ q.names <+: p.names := by
  induction climbs with
  | here p => simp
  | @up p q r passed above further ih =>
    obtain ⟨plainQ, start, first, -⟩ := plain.of_parent above
    rw [List.cons_append]
    refine List.forall_mem_cons.mpr ⟨⟨rfl, List.prefix_rfl⟩, fun q' met => ?_⟩
    obtain ⟨start', first'⟩ := ih plainQ q' met
    exact ⟨start'.trans start, first'.trans first⟩

end CanvasLint.Path

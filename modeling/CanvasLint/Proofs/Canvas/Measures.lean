import CanvasLint.Proofs.Canvas.Views
import CanvasLint.Proofs.Json.Yields

/-! The measures of elements. Every width and every height in a document is finite, since others are
refused. Whether the sizes of texts are finite nobody checks; in a document that was read they are,
since no text spells any other number. -/
namespace CanvasLint.Canvas

open Json (Fault Form Mismatch Value)
open Json.Typed (Slot Slot.of_keeps yields_judged yields_list yields_orNull yields_record)
open Text (Reader)
open Text.Reader (Yields)

/-- The size is finite, if it is a single one. -/
def FontSize.Finite (size : FontSize) : Prop :=
  ∀ x, size = .px x → x.isFinite = true

/-- The size of the text is finite, if the element has a single one. -/
def Node.Sized (n : Node) : Prop :=
  ∀ size, n.fontSize = some size → size.Finite

/-- All sizes in the tree are finite. -/
def Tree.Sized (t : Tree) : Prop :=
  ∀ n ∈ t.nodes, n.Sized

theorem FontSizeEntry.finite_of_ofValue {v : Value} {written : FontSizeEntry} (finite : v.Finite)
    (read : ofValue v = .ok written) : written.fontSize.Finite := by
  unfold ofValue at read
  split at read
  · rename_i n
    cases read
    rintro x same
    cases same
    exact finite n rfl
  · split at read
    · cases read
      nofun
    · cases read

/-! ### Reading elements -/

namespace Tree

/-- All sizes that have been read so far are finite. -/
structure Draft.Sized (d : Draft) : Prop where
  fontSize : ∀ written, d.fontSize.join = some written → written.fontSize.Finite
  children : ∀ ts, d.children.join = some ts → ∀ t ∈ ts, t.Sized

theorem sized_ofDraft {d : Draft} {form : Form} {t : Tree} (sized : d.Sized)
    (made : ofDraft d form = .ok t) : t.Sized := by
  unfold ofDraft at made
  split at made
  · cases made
  · cases made
  · cases made
    intro n listed
    rw [nodes_eq_cons, List.mem_cons] at listed
    rcases listed with rfl | listed
    · rintro size same
      obtain ⟨written, given, rfl⟩ := Option.map_eq_some_iff.mp same
      exact sized.fontSize written given
    · rw [nodesOfAll_eq_flatMap, List.mem_flatMap] at listed
      obtain ⟨t, child, below⟩ := listed
      cases given : d.children.join with
      | none =>
        rw [children_node, given] at child
        cases child
      | some ts =>
        rw [children_node, given] at child
        exact sized.children ts given t child n below

/-- A field that is neither the size of the text nor the list of children. -/
private theorem other_keeps {α : Type} {name : String} {get : Draft → Option α}
    {put : α → Draft → Draft} {r : Reader Fault α}
    (fontSize : ∀ a d, (put a d).fontSize = d.fontSize)
    (children : ∀ a d, (put a d).children = d.children) :
    (Slot.of name get put r).Keeps Draft.Sized := by
  refine Slot.of_keeps (Text.Reader.yields_true r) fun a d _ sized => ⟨?_, ?_⟩
  · rw [fontSize]
    exact sized.fontSize
  · rw [children]
    exact sized.children

private theorem slots_keep {budget : Nat} {child : Reader Fault Tree}
    (below : child.Yields Tree.Sized) : ∀ slot ∈ slots budget child, slot.Keeps Draft.Sized := by
  have size : (Json.Typed.judged budget FontSizeEntry.ofValue).Yields fun a => a.fontSize.Finite :=
    yields_judged fun v written finite read => FontSizeEntry.finite_of_ofValue finite read
  unfold slots
  simp only [List.forall_mem_cons]
  refine ⟨?_, ?_, ?_, ?_, ?_, ?_, ?_, ?_, ?fontSize, ?_, ?_, ?children, ?_, List.forall_mem_nil _⟩
  case fontSize =>
    refine Slot.of_keeps (yields_orNull size)
      fun a d known sized => ⟨fun written same => ?_, sized.children⟩
    exact known written same
  case children =>
    refine Slot.of_keeps (yields_orNull (yields_list below))
      fun a d known sized => ⟨sized.fontSize, fun ts same => ?_⟩
    exact known ts same
  all_goals exact other_keeps (fun _ _ => rfl) (fun _ _ => rfl)

private theorem yields_readWith {budget : Nat} {child : Reader Fault Tree}
    (below : child.Yields Tree.Sized) : (readWith budget child).Yields Tree.Sized :=
  yields_record ⟨nofun, nofun⟩ (slots_keep below) fun _ _ _ sized made => sized_ofDraft sized made

theorem yields_read (budget : Nat) : (read budget).Yields Tree.Sized := by
  have refused : (Json.Layout.refuseNesting : Reader Fault Tree).Yields Tree.Sized :=
    fun _ _ _ read => nomatch read
  induction budget using Nat.twoStepInduction with
  | zero => exact yields_readWith refused
  | one => exact yields_readWith refused
  | more budget ih _ => exact yields_readWith ih

end Tree

namespace Snapshot

/-- The trees that have been read are sized. -/
def Draft.Sized (d : Draft) : Prop :=
  ∀ ts, d.trees = some ts → ∀ t ∈ ts, t.Sized

private theorem slots_keep {budget : Nat} :
    ∀ slot ∈ slots budget, slot.Keeps Draft.Sized := by
  unfold slots
  simp only [List.forall_mem_cons]
  refine ⟨?_, ?_, List.forall_mem_nil _⟩
  · exact Slot.of_keeps (Text.Reader.yields_true _) fun _ _ _ known => known
  · exact Slot.of_keeps (yields_list (Tree.yields_read _))
      fun ts d known _ us same => by cases same; exact known

theorem yields_read : read.Yields fun s => ∀ t ∈ s.trees, t.Sized := by
  have start : Draft.Sized {} := nofun
  refine yields_record start slots_keep fun d _ s known made => ?_
  cases made
  intro t listed
  cases given : d.trees with
  | none =>
    rw [given] at listed
    cases listed
  | some ts =>
    rw [given] at listed
    exact known ts given t listed

theorem sized_of_ofText {text : String} {s : Snapshot} (read : ofText text = .ok s) :
    ∀ t ∈ s.trees, t.Sized :=
  Json.of_readWhole yields_read read

end Snapshot

namespace Document

variable {d : Document} {ts : List Tree} {n : Node}

theorem Sound.isFinite_extents (sound : d.Sound ts) (listed : n ∈ d.nodes) :
    n.width.isFinite = true ∧ n.height.isFinite = true := by
  rw [sound.nodes_eq] at listed
  obtain ⟨width, height⟩ := sound.extents n listed
  rw [validExtent, Bool.and_eq_true] at width height
  exact ⟨width.1, height.1⟩

/-- The sizes of all texts in the document are finite. -/
def Sized (d : Document) : Prop :=
  ∀ n ∈ d.nodes, n.Sized

theorem Sound.sized_iff (sound : d.Sound ts) : d.Sized ↔ ∀ t ∈ ts, t.Sized := by
  simp only [Sized, sound.nodes_eq, nodesOfAll_eq_flatMap, List.mem_flatMap, Tree.Sized]
  exact ⟨fun sized t top n below => sized n ⟨t, top, below⟩,
    fun sized n ⟨t, top, below⟩ => sized t top n below⟩

/-- The sizes of texts that were read are finite. -/
theorem Sound.sized_of_ofText {s : Snapshot} {text : String} (sound : d.Sound s.trees)
    (read : Snapshot.ofText text = .ok s) : d.Sized :=
  sound.sized_iff.mpr (Snapshot.sized_of_ofText read)

end Document

end CanvasLint.Canvas

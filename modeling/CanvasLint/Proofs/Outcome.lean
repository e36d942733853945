import Mathlib.Data.Option.Basic

/-! Steps that may fail. A chain of steps comes to a result if and only if each of its steps
does, and fails as the first of its steps that fails. -/
namespace CanvasLint.Outcome

variable {ε α β : Type} {outcome : Except ε α} {a : α} {b : β} {e : ε}

theorem bind_eq_ok {next : α → Except ε β} :
    (outcome >>= next) = .ok b ↔ ∃ a, outcome = .ok a ∧ next a = .ok b := by
  cases outcome with
  | error e => exact ⟨nofun, fun ⟨_, same, _⟩ => nomatch same⟩
  | ok a => exact ⟨fun done => ⟨a, rfl, done⟩, fun ⟨_, same, done⟩ => by cases same; exact done⟩

theorem bind_eq_error {next : α → Except ε β} :
    (outcome >>= next) = .error e ↔
      outcome = .error e ∨ ∃ a, outcome = .ok a ∧ next a = .error e := by
  cases outcome with
  | error e' => exact ⟨fun failed => .inl (by cases failed; rfl), fun failed => by
      rcases failed with same | ⟨_, same, _⟩ <;> cases same
      rfl⟩
  | ok a => exact ⟨fun failed => .inr ⟨a, rfl, failed⟩, fun failed => by
      rcases failed with same | ⟨_, same, failed⟩ <;> cases same
      exact failed⟩

theorem toOption_eq_some : outcome.toOption = some a ↔ outcome = .ok a := by
  cases outcome <;> simp [Except.toOption]

/-- How the steps failed, if they did. -/
def fault? : Except ε α → Option ε
  | .error e => some e
  | .ok _ => none

theorem fault?_eq_some : fault? outcome = some e ↔ outcome = .error e := by
  cases outcome <;> simp [fault?]

/-- Steps that each come to a result come to all of them. -/
theorem mapM_map_eq_ok {γ : Type} {made : γ → α} {step : α → Except ε β} {result : γ → β}
    {cs : List γ} (each : ∀ c ∈ cs, step (made c) = .ok (result c)) :
    (cs.map made).mapM step = .ok (cs.map result) := by
  induction cs with
  | nil => rfl
  | cons c cs ih =>
    rw [List.map_cons, List.mapM_cons, each c List.mem_cons_self,
      ih fun c listed => each c (List.mem_cons_of_mem _ listed)]
    rfl

end CanvasLint.Outcome

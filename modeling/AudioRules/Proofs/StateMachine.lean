import Mathlib.Data.List.Induction

namespace AudioRules

structure StateMachine (κ α σ : Type) where
  start : σ
  step  : σ → κ → α × σ

namespace StateMachine

variable {κ α σ : Type} (M : StateMachine κ α σ)

-- The state after some calls.
def run (calls : List κ) : σ :=
  calls.foldl (fun s call => (M.step s call).2) M.start

theorem run_append_singleton (calls : List κ) (call : κ) :
    M.run (calls ++ [call]) = (M.step (M.run calls) call).2 := by
  simp [run]

theorem run_invariant {P : σ → Prop} (hs : P M.start)
    (hp : ∀ s call, P s → P (M.step s call).2) (calls : List κ) : P (M.run calls) := by
  induction calls using List.reverseRecOn with
  | nil => exact hs
  | append_singleton calls call hi =>
    rw [run_append_singleton]
    exact hp _ call hi

end StateMachine

-- Where calls are cut at one of them, a further call is the one at the cut, or comes after it.
theorem append_singleton_eq_cut_iff {calls before after : List κ} {call cut : κ} :
    calls ++ [call] = before ++ cut :: after ↔
      (calls = before ∧ call = cut ∧ after = []) ∨
        ∃ after', after = after' ++ [call] ∧ calls = before ++ cut :: after' := by
  rcases List.eq_nil_or_concat after with rfl | ⟨after', last, rfl⟩
  case inl => simp
  case inr =>
    have h : before ++ cut :: after'.concat last = (before ++ cut :: after') ++ [last] := by simp
    rw [h, List.append_singleton_inj]
    constructor
    case mp =>
      rintro ⟨rfl, rfl⟩
      exact .inr ⟨after', List.concat_eq_append, rfl⟩
    case mpr =>
      rintro (⟨_, _, ha⟩ | ⟨after'', ha, hc⟩)
      case inl => simp at ha
      case inr =>
        obtain ⟨rfl, rfl⟩ := List.append_singleton_inj.1 (List.concat_eq_append ▸ ha)
        exact ⟨hc, rfl⟩

end AudioRules

import AudioRules.Proofs.Engine.Registration
import AudioRules.Proofs.Engine.Run

namespace AudioRules

namespace EngineCall

variable {host : ModuleHost σ} {c : Classifier} {s : σ} {d : Direction}

theorem exists_step_updateModule (host : ModuleHost σ) (c : Classifier) (s : σ) (d : Direction)
    (label : String) :
    ∃ modules, ((updateModule d label).step host c s).1 = { c with modules } := by
  simp only [step, Classifier.updateModule]
  split
  case h_1 => exact ⟨c.modules, rfl⟩
  case h_2 => exact ⟨_, rfl⟩

-- Loading a rule set does what the definitions in it do.
theorem step_config {call : EngineCall} (hl : ∀ rules, call ≠ .load rules) :
    (call.step host c s).1.config = c.config := by
  cases call
  case load rules           => exact absurd rfl (hl rules)
  case addDevice d rule     => cases d <;> rfl
  case removeDevice d label => cases d <;> rfl
  case updateModule d label =>
    have ⟨_, hm⟩ := exists_step_updateModule host c s d label
    rw [hm]
  all_goals rfl

theorem run_config (host : ModuleHost σ) (c : Classifier) (s : σ) (calls : List EngineCall) :
    (run host c s calls).1.config = c.config := by
  refine run_induction (P := fun c' => c'.config = c.config) rfl ?_ ..
  exact fun _ _ _ _ hl h => (step_config hl).trans h

end EngineCall

end AudioRules

import AudioRules.Proofs.AppId
import AudioRules.Proofs.Engine.Step
import AudioRules.Proofs.Stream.Registration

namespace AudioRules

structure Classifier.Compiled (c : Classifier) : Prop where
  streams : c.streams.Compiled
  appIds  : c.appIds.Compiled

namespace EngineCall

variable {host : ModuleHost σ} {c : Classifier}

theorem step_compiled {call : EngineCall} (hl : ∀ rules, call ≠ .load rules) (h : c.Compiled)
    (s : σ) : (call.step host c s).1.Compiled := by
  cases call
  case load rules => exact absurd rfl (hl rules)
  case addDevice d rule =>
    cases d <;> exact ⟨h.streams, h.appIds⟩
  case removeDevice d label => cases d <;> exact ⟨h.streams, h.appIds⟩
  case addStream rule =>
    exact ⟨StreamRules.add_compiled h.streams (c.vars.inStream rule), h.appIds⟩
  case updateRoute route =>
    exact ⟨StreamRules.updateRoute_compiled h.streams route, h.appIds⟩
  case registerAppId id spec group =>
    exact ⟨h.streams, AppIds.register_compiled h.appIds id spec group⟩
  case unregisterAppId id => exact ⟨h.streams, AppIds.unregister_compiled h.appIds id⟩
  case updateModule d label =>
    obtain ⟨_, hm⟩ := exists_step_updateModule host c s d label
    exact hm ▸ ⟨h.streams, h.appIds⟩
  all_goals exact ⟨h.streams, h.appIds⟩

theorem Registered.preserves_compiled (h : Registered c c') (hc : c.Compiled) : c'.Compiled :=
  h.induction hc fun _ _ s _ hr hc => step_compiled hr.ne_load hc s

theorem run_compiled (host : ModuleHost σ) (config : EngineConfig) (s : σ)
    (calls : List EngineCall) : (run host { config } s calls).1.Compiled := by
  have h₀ : Classifier.Compiled { config } := ⟨fun _ => nofun, fun _ => nofun⟩
  exact run_induction h₀ (fun _ _ s _ hl h => step_compiled hl h s) host s calls

end EngineCall

end AudioRules

import AudioRules.Proofs.Engine.Step
import AudioRules.Proofs.Table.Rules

namespace AudioRules

-- What calls make of an empty table.
def CardTable.Reachable (t : CardTable) : Prop :=
  ∃ calls : List (TableCall Card.RuleDef), t = CardTable.kind.run calls

namespace CardTable.Reachable

variable {t : CardTable}

theorem empty : Reachable .empty :=
  ⟨[], rfl⟩

theorem step (h : t.Reachable) (call : TableCall Card.RuleDef) :
    (CardTable.kind.step t call).2.Reachable := by
  obtain ⟨calls, rfl⟩ := h
  exact ⟨calls ++ [call], (TableKind.run_append_singleton _ calls call).symm⟩

end CardTable.Reachable

namespace EngineCall

variable {host : ModuleHost σ} {c : Classifier}

theorem step_cards {call : EngineCall} (hl : ∀ rules, call ≠ .load rules) (h : c.cards.Reachable)
    (s : σ) : (call.step host c s).1.cards.Reachable := by
  cases call
  case load rules => exact absurd rfl (hl rules)
  case addCard rule         => exact h.step (.add (c.vars.inCard rule))
  case removeCard label     => exact h.step (.remove label)
  case addDevice d rule     => cases d <;> exact h
  case removeDevice d label => cases d <;> exact h
  case updateModule d label =>
    obtain ⟨_, hm⟩ := exists_step_updateModule host c s d label
    exact hm ▸ h
  all_goals exact h

theorem run_cards (host : ModuleHost σ) (config : EngineConfig) (s : σ) (calls : List EngineCall) :
    (run host { config } s calls).1.cards.Reachable :=
  run_induction (P := fun c => c.cards.Reachable) .empty (fun _ _ s _ hl h => step_cards hl h s)
    host s calls

end EngineCall

-- A new engine that has loaded a rule set.
theorem RuleSet.build_cards (r : RuleSet) : r.build.1.cards.Reachable :=
  EngineCall.run_cards .idle r.engine () [.load r]

end AudioRules

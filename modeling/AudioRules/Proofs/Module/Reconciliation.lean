import AudioRules.Proofs.Module.Conservation

namespace AudioRules

theorem Classifier.updateModule_reconcileModules (c : Classifier) (d : Direction) (label : String)
    (host : ModuleHost σ) (s : σ) :
    (c.reconcileModules d label host s).2.1.updateModule d label host
        (c.reconcileModules d label host s).2.2 =
      c.updateModule d label host s := by
  have hd (modules) : ({ c with modules } : Classifier).devices d = c.devices d := by
    cases d <;> rfl
  cases hr : (c.devices d).get? label with
  | none      => simp [reconcileModules, updateModule, hr, hd, ModuleSlots.reconcile]
  | some rule => simp [reconcileModules, updateModule, hr, hd, ModuleSlots.update_reconcile]

namespace EngineCall

-- The host is asked the same, in the same order, and everything comes out the same.
theorem reconcile_before_update {σ : Type} (host : ModuleHost σ) (c : Classifier) (s : σ)
    (d : Direction) (label : String) :
    let (_, c', s') := c.reconcileModules d label host s
    c'.updateModule d label host s' = c.updateModule d label host s ∧
      (reconcileModules d label).hostCalls host c s ++
          (updateModule d label).hostCalls host c' s' =
        (updateModule d label).hostCalls host c s := by
  refine ⟨c.updateModule_reconcileModules d label host s, ?_⟩
  -- the same equation for the host with a log
  have hu : (updateModule d label).step host.recorded
        ((reconcileModules d label).step host.recorded c (s, [])).1
        ((reconcileModules d label).step host.recorded c (s, [])).2 =
      (updateModule d label).step host.recorded c (s, []) :=
    congrArg (·.2) (c.updateModule_reconcileModules d label host.recorded (s, []))
  simp only [step_recorded, List.nil_append] at hu
  exact congrArg (·.2.2) hu

end EngineCall

end AudioRules

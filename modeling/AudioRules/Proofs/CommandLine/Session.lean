import AudioRules.CommandLine.Classify
import AudioRules.Proofs.Engine.Step

namespace AudioRules.Classify

theorem loadModule_eq (s : Snapshot) (host : ModuleHost (PactlSession τ)) (d : Direction)
    (c : Classifier) (session : PactlSession τ) :
    ∃ modules, (loadModule s host d c session).1 = { c with modules } := by
  unfold loadModule
  split
  case h_1 => exact ⟨c.modules, rfl⟩
  case h_2 type device _ =>
    have ⟨modules, h⟩ := EngineCall.exists_step_updateModule host
      (c.reconcileModules d type host session).2.1 (c.reconcileModules d type host session).2.2 d
      type
    exact ⟨modules, h⟩

theorem loadModules_eq (s : Snapshot) (host : ModuleHost (PactlSession τ)) (c : Classifier)
    (session : PactlSession τ) :
    ∃ modules, (loadModules s host c session).1 = { c with modules } := by
  unfold loadModules
  generalize Direction.all = ds, ([] : List Line) = lines
  induction ds generalizing c session lines with
  | nil => exact ⟨c.modules, rfl⟩
  | cons d ds hi =>
    have ⟨_, hd⟩ := loadModule_eq s host d c session
    have ⟨modules, h⟩ := hi (loadModule s host d c session).1 (loadModule s host d c session).2.1
      (lines ++ (loadModule s host d c session).2.2)
    exact ⟨modules, h.trans (by rw [hd])⟩

theorem session_eq (m : Machine τ) (options : ClassifyOptions) (s : Snapshot) (c : Classifier) :
    ∃ modules, (session m options s c).1 = { c with modules } := by
  unfold session
  dsimp only
  split
  case isTrue  => exact loadModules_eq ..
  case isFalse => exact ⟨c.modules, rfl⟩

-- The report comes last, and the log is no part of it.
theorem stdout_run {m : Machine τ} {options : ClassifyOptions} {s : Snapshot} {rules : RuleSet}
    (hr : m.rules path = .ok rules) (hs : m.snapshot options.dump = .ok s) :
    ∃ said modules, (run m path options).stdout =
        said ++ report { routed rules.build.1 s with modules } (.table rules.groupTable)
          options.reclassify s ∧
      (run m path options).failure = none := by
  have ⟨modules, hm⟩ := session_eq m options s (routed rules.build.1 s)
  rw [run, hr]
  dsimp only
  rw [hs]
  dsimp only
  rw [hm]
  simp only [Outcome.stdout, List.filterMap_append, Line.filterMap_printed]
  exact ⟨_, modules, rfl, trivial⟩

end AudioRules.Classify

import AudioRules.Proofs.Module.Turnover
import AudioRules.Proofs.StateMachine

namespace AudioRules.EngineCall

section Runs

variable {σ : Type} (host : ModuleHost σ) (config : EngineConfig) (s : σ)

-- One of the calls has loaded the module for the rule, and nothing has happened to the direction
-- since.
def LoadedFor (calls : List EngineCall) (d : Direction) (index : ModuleIndex)
    (rule : Device.Rule) : Prop :=
  ∃ before call after, calls = before ++ call :: after ∧
    (let (c, s') := run host { config } s before
     LoadsFor host c s' call d index rule) ∧
    let (c, s') := run host { config } s (before ++ [call])
    history d (journal host c s' after) = []

variable {host config s} {calls : List EngineCall} {call : EngineCall} {d : Direction}
  {index : ModuleIndex} {rule : Device.Rule} {loaded : LoadedModule}

theorem loadedFor_append_singleton :
    LoadedFor host config s (calls ++ [call]) d index rule ↔
      let (c, s') := run host { config } s calls
      LoadsFor host c s' call d index rule ∨
        history d (call.events host c s') = [] ∧ LoadedFor host config s calls d index rule := by
  -- nothing happens over some calls and one more if nothing happens over either
  have hq (before cut after) : history d (journal host (run host { config } s (before ++ [cut])).1
        (run host { config } s (before ++ [cut])).2 (after ++ [call])) = [] ↔
      history d (journal host (run host { config } s (before ++ [cut])).1
          (run host { config } s (before ++ [cut])).2 after) = [] ∧
        history d (call.events host (run host { config } s (before ++ cut :: after)).1
          (run host { config } s (before ++ cut :: after)).2) = [] := by
    rw [journal_append_singleton, history_append, List.append_eq_nil_iff, ← run_append,
      ← List.append_cons]
  simp only [LoadedFor, append_singleton_eq_cut_iff]
  constructor
  case mp =>
    rintro ⟨before, cut, after, ⟨rfl, rfl, _⟩ | ⟨after', rfl, rfl⟩, hl, hn⟩
    case inl => exact .inl hl
    case inr =>
      have ⟨hn, hc⟩ := (hq ..).1 hn
      exact .inr ⟨hc, before, cut, after', rfl, hl, hn⟩
  case mpr =>
    rintro (hl | ⟨hc, before, cut, after, rfl, hl, hn⟩)
    case inl => exact ⟨calls, call, [], .inl ⟨rfl, rfl, rfl⟩, hl, rfl⟩
    case inr => exact ⟨before, cut, after ++ [call], .inr ⟨after, rfl, rfl⟩, hl, (hq ..).2 ⟨hn, hc⟩⟩

theorem LoadedFor.tracked (h : LoadedFor host config s calls d index rule) :
    ∃ spec, (run host { config } s calls).1.modules.get d =
      some ⟨index, spec, rule.data.flags⟩ := by
  induction calls using List.reverseRecOn with
  | nil =>
    have ⟨_, _, _, hc, _⟩ := h
    simp at hc
  | append_singleton calls call hi =>
    rw [run_append]
    rcases loadedFor_append_singleton.1 h with hl | ⟨hq, h⟩
    case inl => exact hl.slot
    case inr =>
      have ⟨spec, hm⟩ := hi h
      exact ⟨spec, (slot_of_quiet hq).trans hm⟩

theorem exists_loadedFor (h : (run host { config } s calls).1.modules.get d = some loaded) :
    ∃ rule, LoadedFor host config s calls d loaded.index rule := by
  induction calls using List.reverseRecOn with
  | nil => cases d <;> cases h
  | append_singleton calls call hi =>
    rw [run_append] at h
    rcases slot_eq_some h with ⟨hq, hm⟩ | ⟨rule, hl⟩
    case inl =>
      have ⟨rule, h⟩ := hi hm
      exact ⟨rule, loadedFor_append_singleton.2 (.inr ⟨hq, h⟩)⟩
    case inr => exact ⟨rule, loadedFor_append_singleton.2 (.inl hl)⟩

end Runs

theorem turnover_of_mem (host : ModuleHost σ) (c : Classifier) (s : σ) (d : Direction)
    (label : String) : ∀ call ∈ [updateModule d label, reconcileModules d label],
      ∃ data?, Turnover data? (c.modules.get d) (call.hostCalls host c s)
        ((call.step host c s).1.modules.get d) := by
  simp only [List.forall_mem_cons, List.not_mem_nil, false_implies, implies_true, and_true]
  exact ⟨⟨_, updateModule_turnover ..⟩, ⟨_, reconcileModules_turnover ..⟩⟩

-- After any run:
-- 1. what is tracked was loaded for a rule, and nothing has happened to it since
-- 2. when its direction is updated or reconciled, it is kept, or the host is asked to unload it
--    before anything is loaded, and whether at once is up to that rule
-- 3. neither does anything to the module of the other direction
-- 4. at the end all are unloaded at once
theorem unload_mode_of_run {σ : Type} (host : ModuleHost σ) (config : EngineConfig) (s : σ)
    (calls : List EngineCall) :
    let (c, s') := run host { config } s calls
    (∀ d index, c.modules.index? d = some index ↔
      ∃ rule, LoadedFor host config s calls d index rule) ∧
    (∀ d index rule, LoadedFor host config s calls d index rule →
      ∀ label, ∀ call ∈ [updateModule d label, reconcileModules d label],
        call.hostCalls host c s' = [] ∧
            (call.step host c s').1.modules.get d = c.modules.get d ∨
          ∃ loads, call.hostCalls host c s' =
              (if rule.data.flags.has DeviceFlag.moduleUnloadImmediately then .unload index
                else .requestUnload index) :: loads ∧
            ∀ hostCall ∈ loads, ∃ name args result, hostCall = .load name args result) ∧
    (∀ d d' label, d' ≠ d → ∀ call ∈ [updateModule d label, reconcileModules d label],
      (call.step host c s').1.modules.get d' = c.modules.get d') ∧
    shutdown.hostCalls host c s' = (Direction.all.filterMap c.modules.index?).map .unload := by
  refine ⟨fun d index => ⟨fun h => ?_, fun ⟨rule, h⟩ => ?_⟩, fun d index rule h label call hc => ?_,
    fun d d' label hd => ?_, hostCalls_shutdown ..⟩
  · obtain ⟨loaded, hm, rfl⟩ := Option.map_eq_some_iff.1 h
    exact exists_loadedFor hm
  · have ⟨spec, hm⟩ := h.tracked
    exact Option.map_eq_some_iff.2 ⟨_, hm, rfl⟩
  · have ⟨spec, hm⟩ := h.tracked
    obtain ⟨data?, ht⟩ := turnover_of_mem host _ _ d label call hc
    rw [hm] at ht ⊢
    exact ht.kept_or_released
  · simp only [List.forall_mem_cons, List.not_mem_nil, false_implies, implies_true, and_true]
    exact ⟨updateModule_preserves hd .., reconcileModules_preserves hd ..⟩

-- A rule that has changed since has no say.
example :
    let rule : Device.RuleDef :=
      { label := "headset", predicate := ⟨.name, .always, none⟩, module? := some ⟨"loopback", none⟩ }
    let (c, s) := run .counting {} 0
      [.addDevice .sink { rule with flags := DeviceFlag.moduleUnloadImmediately },
        .updateModule .sink "headset", .addDevice .sink rule, .updateModule .sink "headset",
        .addDevice .sink { rule with label := "speaker", module? := none }]
    (updateModule .sink "speaker").hostCalls .counting c s = [.unload 0] :=
  rfl

end AudioRules.EngineCall

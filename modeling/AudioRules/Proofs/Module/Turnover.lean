import AudioRules.Proofs.Module.Conservation
import AudioRules.Proofs.Module.Slots

namespace AudioRules

namespace Turnover

variable {data? : Option Device.Data} {t u : Option LoadedModule} {calls : List HostCall}
  {loaded : LoadedModule}

theorem eq_of_nil (h : Turnover data? t [] u) : t = u := by
  cases h
  rfl

-- What is tracked afterwards was tracked before, or has just been loaded.
theorem kept_or_loaded (h : Turnover data? t calls u) (hu : u = some loaded) :
    calls = [] ∧ t = some loaded ∨
      ∃ data name args, data? = some data ∧ .load name args (.ok loaded.index) ∈ calls := by
  induction h
  case stay      => exact .inl ⟨rfl, hu⟩
  case refused   => cases hu
  case load hd _ =>
    cases hu
    exact .inr ⟨_, _, _, hd, List.mem_singleton_self _⟩
  case release hi =>
    rcases hi hu with ⟨_, ht⟩ | ⟨data, name, args, hd, hm⟩
    case inl => cases ht
    case inr => exact .inr ⟨data, name, args, hd, List.mem_cons_of_mem _ hm⟩

theorem tracked_of_load (h : Turnover data? t calls u)
    (hm : .load name args (.ok index) ∈ calls) :
    ∃ data, data? = some data ∧ u = some ⟨index, ⟨name, args⟩, data.flags⟩ := by
  induction h
  case stay => cases hm
  case load hd _ =>
    cases List.mem_singleton.1 hm
    exact ⟨_, hd, rfl⟩
  case refused => cases List.mem_singleton.1 hm
  case release loaded _ hi =>
    refine hi ((List.mem_cons.1 hm).resolve_left fun he => ?_)
    unfold LoadedModule.release at he
    split at he <;> cases he

-- A module that is not kept is released before anything is loaded.
theorem kept_or_released (h : Turnover data? (some loaded) calls u) :
    calls = [] ∧ u = some loaded ∨
      ∃ loads, calls = loaded.release :: loads ∧
        ∀ call ∈ loads, ∃ name args result, call = .load name args result := by
  cases h
  case stay => exact .inl ⟨rfl, rfl⟩
  case release calls h =>
    refine .inr ⟨calls, rfl, ?_⟩
    cases h <;> simp

theorem kept_or_emptied (h : Turnover none t calls u) : calls = [] ∧ u = t ∨ u = none := by
  cases h
  case stay        => exact .inl ⟨rfl, rfl⟩
  case load h _    => cases h
  case refused     => exact .inr rfl
  case release h =>
    cases h
    case stay      => exact .inr rfl
    case load h _  => cases h
    case refused   => exact .inr rfl

end Turnover

namespace EngineCall

variable {σ : Type} {host : ModuleHost σ} {c : Classifier} {s : σ} {d d' : Direction}
  {call : EngineCall} {loaded : LoadedModule}

theorem updateModule_turnover (host : ModuleHost σ) (c : Classifier) (s : σ) (d : Direction)
    (label : String) :
    Turnover (((c.devices d).get? label).map (·.data)) (c.modules.get d)
      ((updateModule d label).hostCalls host c s)
      (((updateModule d label).step host c s).1.modules.get d) := by
  cases hr : (c.devices d).get? label with
  | none => simpa [hostCalls, step_updateModule_of_none hr] using .stay
  | some rule =>
    obtain ⟨_, ha, ht⟩ := c.modules.update_asks d rule.data host s
    rwa [hostCalls_eq (asks_step (step_updateModule hr) ha), step_updateModule hr]

theorem reconcileModules_turnover (host : ModuleHost σ) (c : Classifier) (s : σ) (d : Direction)
    (label : String) :
    Turnover none (c.modules.get d) ((reconcileModules d label).hostCalls host c s)
      (((reconcileModules d label).step host c s).1.modules.get d) := by
  have ⟨calls, ha, ht⟩ := c.modules.reconcile_asks d ((c.devices d).get? label) host s
  have hc : (reconcileModules d label).hostCalls host c s = calls :=
    hostCalls_eq (asks_step (fun _ _ => rfl) ha)
  rwa [hc]

theorem updateModule_preserves (h : d' ≠ d) (host : ModuleHost σ) (c : Classifier) (s : σ)
    (label : String) :
    ((updateModule d label).step host c s).1.modules.get d' = c.modules.get d' := by
  cases hr : (c.devices d).get? label with
  | none      => rw [step_updateModule_of_none hr]
  | some rule =>
    rw [step_updateModule hr]
    exact ModuleSlots.update_preserves h ..

theorem reconcileModules_preserves (h : d' ≠ d) (host : ModuleHost σ) (c : Classifier) (s : σ)
    (label : String) :
    ((reconcileModules d label).step host c s).1.modules.get d' = c.modules.get d' :=
  ModuleSlots.reconcile_preserves h ..

theorem history_updateModule (host : ModuleHost σ) (c : Classifier) (s : σ) (d : Direction)
    (label : String) : history d ((updateModule d label).events host c s) =
      ((updateModule d label).hostCalls host c s).map
        (.call (((c.devices d).get? label).map (·.data))) := by
  rw [events, history_map, if_pos rfl]

theorem spared_or_emptied_of_loss (h : Loses c call d') :
    history d (call.events host c s) = [] ∧
        (call.step host c s).1.modules.get d = c.modules.get d ∨
      (call.step host c s).1.modules.get d = none := by
  rw [h.step_eq, h.events_eq, history_map]
  by_cases hd : d' = d
  case pos => exact .inr (hd ▸ ModuleSlots.get_set)
  case neg => exact .inl ⟨if_neg hd, ModuleSlots.get_set_of_ne (Ne.symm hd)⟩

-- Only an update for a direction may load a module for it.
theorem spared_or_emptied (hu : ∀ label, call ≠ .updateModule d label) (host : ModuleHost σ)
    (c : Classifier) (s : σ) :
    history d (call.events host c s) = [] ∧
        (call.step host c s).1.modules.get d = c.modules.get d ∨
      (call.step host c s).1.modules.get d = none := by
  by_cases hc : call.ConcernsModules
  case neg => simp [events_of_not_concerns hc, modules_of_not_concerns hc, history]
  case pos =>
    cases call <;> simp only [ConcernsModules] at hc
    case updateModule d' label =>
      have hd : d' ≠ d := fun hd => hu label (hd ▸ rfl)
      refine .inl ⟨?_, updateModule_preserves (Ne.symm hd) ..⟩
      rw [events, history_map, if_neg hd]
    case reconcileModules d' label =>
      rw [events, history_map]
      by_cases hd : d' = d
      case pos =>
        subst hd
        simpa using (reconcileModules_turnover host c s d' label).kept_or_emptied
      case neg => exact .inl ⟨if_neg hd, reconcileModules_preserves (Ne.symm hd) ..⟩
    case invalidateModule d' => exact spared_or_emptied_of_loss (loses_invalidateModule c d')
    case moduleUnlinked index =>
      cases hl : (c.modules.unlinked index).1 with
      | some d' => exact spared_or_emptied_of_loss (loses_moduleUnlinked hl)
      | none    =>
        rw [step_moduleUnlinked_of_none hl]
        exact .inl ⟨by simp [events, Classifier.moduleUnlinked, hl, history], rfl⟩
    case shutdown => exact .inr (by cases d <;> rfl)

-- The call loads a module for a rule of the direction, as the rule is when it is called.
def LoadsFor (host : ModuleHost σ) (c : Classifier) (s : σ) (call : EngineCall) (d : Direction)
    (index : ModuleIndex) (rule : Device.Rule) : Prop :=
  ∃ label, call = .updateModule d label ∧ (c.devices d).get? label = some rule ∧
    ∃ name args, .load name args (.ok index) ∈ call.hostCalls host c s

theorem LoadsFor.slot (h : LoadsFor host c s call d index rule) :
    ∃ spec, (call.step host c s).1.modules.get d = some ⟨index, spec, rule.data.flags⟩ := by
  obtain ⟨label, rfl, hr, name, args, hm⟩ := h
  obtain ⟨data, hd, ht⟩ := (updateModule_turnover host c s d label).tracked_of_load hm
  obtain rfl : rule.data = data := by simpa [hr] using hd
  exact ⟨⟨name, args⟩, ht⟩

-- A module that is gone leaves an event.
theorem slot_of_quiet (h : history d (call.events host c s) = []) :
    (call.step host c s).1.modules.get d = c.modules.get d := by
  by_cases hu : ∃ label, call = .updateModule d label
  case pos =>
    obtain ⟨label, rfl⟩ := hu
    have ht := updateModule_turnover host c s d label
    rw [history_updateModule, List.map_eq_nil_iff] at h
    rw [h] at ht
    exact ht.eq_of_nil.symm
  case neg =>
    rcases spared_or_emptied (not_exists.1 hu) host c s with ⟨_, hk⟩ | hn
    case inl => exact hk
    case inr =>
      have ht := (accounted host c s call).tracks d
      rw [h] at ht
      have hi : c.modules.index? d = none := by simpa [ModuleSlots.index?, hn] using ht.eq_of_nil
      rw [hn, Option.map_eq_none_iff.1 hi]

theorem slot_eq_some (h : (call.step host c s).1.modules.get d = some loaded) :
    history d (call.events host c s) = [] ∧ c.modules.get d = some loaded ∨
      ∃ rule, LoadsFor host c s call d loaded.index rule := by
  by_cases hu : ∃ label, call = .updateModule d label
  case pos =>
    obtain ⟨label, rfl⟩ := hu
    rcases (updateModule_turnover host c s d label).kept_or_loaded h with
      ⟨hc, hk⟩ | ⟨data, name, args, hd, hm⟩
    case inl => exact .inl ⟨by simp [history_updateModule, hc], hk⟩
    case inr =>
      have ⟨rule, hr, _⟩ := Option.map_eq_some_iff.1 hd
      exact .inr ⟨rule, label, rfl, hr, name, args, hm⟩
  case neg =>
    rcases spared_or_emptied (not_exists.1 hu) host c s with ⟨hq, hk⟩ | hn
    case inl => exact .inl ⟨hq, hk ▸ h⟩
    case inr => cases hn.symm.trans h

end EngineCall

end AudioRules

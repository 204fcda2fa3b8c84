import AudioRules.Proofs.Engine.Step
import AudioRules.Proofs.Module.Journal
import AudioRules.Proofs.Module.Slots

namespace AudioRules

open ModuleEvent

namespace Classifier

theorem setDevices_modules (c : Classifier) (d : Direction) (t : DeviceTable d) :
    (c.setDevices d t).modules = c.modules := by
  cases d <;> rfl

end Classifier

namespace EngineCall

variable {σ : Type} {host : ModuleHost σ} {c : Classifier} {s : σ}

theorem registers_modules {call : EngineCall} (h : call.Registers) :
    (call.step host c s).1.modules = c.modules := by
  cases call <;> simp only [Registers] at h
  case addDevice => exact c.setDevices_modules ..
  all_goals rfl

theorem Registered.preserves_modules (h : Registered c c') : c'.modules = c.modules :=
  h.induction (P := fun c' => c'.modules = c.modules) rfl fun _ _ _ _ hr hm =>
    (registers_modules hr).trans hm

-- Calls that deal with modules.
def ConcernsModules : EngineCall → Prop
  | updateModule .. | reconcileModules .. | invalidateModule _ | moduleUnlinked _ | shutdown => True
  | _ => False

theorem events_of_not_concerns {call : EngineCall} (h : ¬call.ConcernsModules) :
    call.events host c s = [] := by
  cases call <;> first | rfl | exact absurd trivial h

theorem modules_of_not_concerns {call : EngineCall} (h : ¬call.ConcernsModules) :
    (call.step host c s).1.modules = c.modules := by
  by_cases hr : call.Registers
  case pos => exact registers_modules hr
  case neg =>
    cases call
    case load rules           => exact (rules.apply_registered c).preserves_modules
    case removeDevice d label => exact c.setDevices_modules d ((c.devices d).remove label).2
    case removeCard | updateRoute | unregisterAppId => rfl
    all_goals first | exact absurd trivial h | exact absurd trivial hr

-- A call that forgets the module of a direction.
structure Loses (c : Classifier) (call : EngineCall) (d : Direction) : Prop where
  step_eq   : ∀ {τ : Type} (host : ModuleHost τ) (s : τ),
    call.step host c s = ({ c with modules := c.modules.set d none }, s)
  events_eq : ∀ {τ : Type} (host : ModuleHost τ) (s : τ),
    call.events host c s = (c.modules.index? d).toList.map fun index => (d, .lost index)

theorem loses_invalidateModule (c : Classifier) (d : Direction) :
    Loses c (.invalidateModule d) d where
  step_eq _ _   := rfl
  events_eq _ _ := by
    cases hm : c.modules.get d <;>
      simp [events, Classifier.invalidateModule, ModuleSlots.invalidate, ModuleSlots.index?, hm]

theorem loses_moduleUnlinked (h : (c.modules.unlinked index).1 = some d) :
    Loses c (.moduleUnlinked index) d where
  step_eq _ _   := by simp [step, Classifier.moduleUnlinked, ModuleSlots.unlinked_snd, h]
  events_eq _ _ := by
    simp [events, Classifier.moduleUnlinked, h, ModuleSlots.index?_of_unlinked h]

theorem step_moduleUnlinked_of_none (h : (c.modules.unlinked index).1 = none)
    {τ : Type} (host : ModuleHost τ) (s : τ) : (moduleUnlinked index).step host c s = (c, s) := by
  simp [step, Classifier.moduleUnlinked, ModuleSlots.unlinked_snd, h]

theorem asks_step {call : EngineCall} {op : {τ : Type} → ModuleHost τ → τ → ModuleSlots × τ}
    (hc : ∀ {τ : Type} (host : ModuleHost τ) (s : τ),
      call.step host c s = ({ c with modules := (op host s).1 }, (op host s).2))
    (ha : Asks op host s calls) : Asks (fun host s => call.step host c s) host s calls := by
  intro log
  have ha : op host.recorded (s, log) = ((op host s).1, (op host s).2, log ++ calls) := ha log
  simp only [hc, ha]

theorem step_updateModule_of_none (hr : (c.devices d).get? label = none)
    {τ : Type} (host : ModuleHost τ) (s : τ) : (updateModule d label).step host c s = (c, s) := by
  simp [step, Classifier.updateModule, hr]

theorem step_updateModule {rule : Device.Rule} (hr : (c.devices d).get? label = some rule)
    {τ : Type} (host : ModuleHost τ) (s : τ) : (updateModule d label).step host c s =
      ({ c with modules := (c.modules.update d rule.data host s).2.1 },
        (c.modules.update d rule.data host s).2.2) := by
  simp [step, Classifier.updateModule, hr]

theorem asks_shutdown (host : ModuleHost σ) (c : Classifier) (s : σ) :
    Asks (fun host s => shutdown.step host c s) host s
      ((Direction.all.filterMap c.modules.index?).map .unload) :=
  asks_step (fun _ _ => rfl) (c.modules.shutdown_asks host s)

theorem hostCalls_shutdown (host : ModuleHost σ) (c : Classifier) (s : σ) :
    shutdown.hostCalls host c s = (Direction.all.filterMap c.modules.index?).map .unload :=
  hostCalls_eq (asks_shutdown host c s)

-- A call whose events account for it: they are what the host is asked, in order, and take what
-- each direction tracks from before the call to after it.
structure Accounted (host : ModuleHost σ) (c : Classifier) (s : σ) (call : EngineCall) : Prop where
  recorded : ∀ log, call.step host.recorded c (s, log) =
    ((call.step host c s).1, (call.step host c s).2,
      log ++ (call.events host c s).filterMap (·.2.hostCall?))
  tracks : ∀ d, Tracks (c.modules.index? d) (history d (call.events host c s))
    ((call.step host c s).1.modules.index? d)

namespace Accounted

theorem of_quiet {call : EngineCall} (he : call.events host c s = [])
    (hr : ∀ log, call.step host.recorded c (s, log) =
      ((call.step host c s).1, (call.step host c s).2, log))
    (hm : ∀ d, (call.step host c s).1.modules.index? d = c.modules.index? d) :
    Accounted host c s call where
  recorded log := by simp [hr, he]
  tracks d     := by simpa [hm, he, history] using .refl

-- For a call that does to the module of a direction what `op` does.
theorem of_asks {call : EngineCall} {op : {τ : Type} → ModuleHost τ → τ → ModuleSlots × τ}
    (hc : ∀ {τ : Type} (host : ModuleHost τ) (s : τ),
      call.step host c s = ({ c with modules := (op host s).1 }, (op host s).2))
    (he : call.events host c s =
      (call.hostCalls host c s).map fun call => (d, .call data? call))
    (ha : Asks op host s calls)
    (ht : Tracks (c.modules.index? d) (calls.map (.call data?)) ((op host s).1.index? d))
    (ho : ∀ d', d' ≠ d → (op host s).1.get d' = c.modules.get d') :
    Accounted host c s call := by
  have hs := asks_step hc ha
  rw [hostCalls_eq hs] at he
  refine ⟨fun log => ?_, fun d' => ?_⟩
  · simp only [hs log, he, List.filterMap_map, Function.comp_def]
    simp [hostCall?]
  · rw [hc, he, history_map]
    by_cases hd : d = d'
    case pos => simpa [← hd] using ht
    case neg => simpa [hd, ModuleSlots.index?_congr (ho d' (Ne.symm hd))] using .refl

theorem updateModule (host : ModuleHost σ) (c : Classifier) (s : σ) (d : Direction)
    (label : String) : Accounted host c s (.updateModule d label) := by
  cases hr : (c.devices d).get? label with
  | none =>
    exact .of_quiet (by simp [events, hostCalls, step_updateModule_of_none hr])
      (fun _ => by simp [step_updateModule_of_none hr])
      (fun _ => by simp [step_updateModule_of_none hr])
  | some rule =>
    obtain ⟨_, ha, ht⟩ := c.modules.update_asks d rule.data host s
    refine .of_asks (step_updateModule hr) rfl ha (.of_turnover ht ?_)
      fun _ hd => ModuleSlots.update_preserves hd ..
    simp [hr]

theorem reconcileModules (host : ModuleHost σ) (c : Classifier) (s : σ) (d : Direction)
    (label : String) : Accounted host c s (.reconcileModules d label) := by
  have ⟨_, ha, ht⟩ := c.modules.reconcile_asks d ((c.devices d).get? label) host s
  exact .of_asks (fun _ _ => rfl) rfl ha (.of_turnover ht nofun)
    fun _ hd => ModuleSlots.reconcile_preserves hd ..

theorem of_loss {call : EngineCall} (h : Loses c call d) : Accounted host c s call := by
  refine ⟨fun log => ?_, fun d' => ?_⟩
  · simp only [h.step_eq, h.events_eq, List.filterMap_map, Function.comp_def]
    simp [hostCall?]
  · rw [h.step_eq, h.events_eq, history_map]
    by_cases hd : d = d'
    case neg =>
      simpa [hd, ModuleSlots.index?_congr (ModuleSlots.get_set_of_ne (Ne.symm hd))] using .refl
    case pos =>
      subst hd
      cases hi : c.modules.index? d with
      | none       => simpa [ModuleSlots.index?] using .refl
      | some index => simpa [ModuleSlots.index?] using .lost .refl

theorem moduleUnlinked (host : ModuleHost σ) (c : Classifier) (s : σ) (index : ModuleIndex) :
    Accounted host c s (.moduleUnlinked index) := by
  cases hu : (c.modules.unlinked index).1 with
  | some d => exact .of_loss (loses_moduleUnlinked hu)
  | none   =>
    refine .of_quiet (by simp [events, Classifier.moduleUnlinked, hu]) (fun _ => ?_) fun _ => ?_
    · simp [step_moduleUnlinked_of_none hu]
    · simp [step_moduleUnlinked_of_none hu]

theorem events_shutdown (host : ModuleHost σ) (c : Classifier) (s : σ) :
    events host c s .shutdown =
      ((c.modules.index? .sink).toList.map fun index => (.sink, .call none (.unload index))) ++
      ((c.modules.index? .source).toList.map fun index => (.source, .call none (.unload index))) := by
  cases hk : c.modules.get .sink <;> cases ho : c.modules.get .source <;>
    simp [events, hostCalls_shutdown, ModuleSlots.index?, Direction.all, hk, ho]

theorem shutdown (host : ModuleHost σ) (c : Classifier) (s : σ) :
    Accounted host c s .shutdown := by
  refine ⟨fun log => ?_, fun d => ?_⟩ <;> rw [events_shutdown]
  · refine (asks_shutdown host c s log).trans ?_
    cases hk : c.modules.index? .sink <;> cases ho : c.modules.index? .source <;>
      simp [Direction.all, hk, ho, hostCall?]
  · have hs : (step host c s .shutdown).1.modules.index? d = none := by cases d <;> rfl
    rw [hs, history_append, history_map, history_map]
    cases d
    all_goals
      cases c.modules.index? _ with
      | none       => exact .refl
      | some index => exact .unload .refl

end Accounted

theorem accounted (host : ModuleHost σ) (c : Classifier) (s : σ) (call : EngineCall) :
    Accounted host c s call := by
  by_cases hc : call.ConcernsModules
  case neg =>
    refine .of_quiet (events_of_not_concerns hc) (fun log => ?_) fun d => ?_
    · cases call <;> first | rfl | exact absurd trivial hc
    · simp [ModuleSlots.index?, modules_of_not_concerns hc]
  case pos =>
    cases call <;> simp only [ConcernsModules] at hc
    case updateModule     => exact .updateModule ..
    case reconcileModules => exact .reconcileModules ..
    case invalidateModule => exact .of_loss (loses_invalidateModule ..)
    case moduleUnlinked   => exact .moduleUnlinked ..
    case shutdown         => exact .shutdown ..

theorem step_recorded (host : ModuleHost σ) (c : Classifier) (s : σ) (call : EngineCall)
    (log : List HostCall) : call.step host.recorded c (s, log) =
      ((call.step host c s).1, (call.step host c s).2, log ++ call.hostCalls host c s) := by
  have hr := (accounted host c s call).recorded
  rw [hostCalls, hr log, hr [], List.nil_append]

-- Runs with a log are runs without one, and the log holds the host calls of the journal.
theorem run_recorded (host : ModuleHost σ) (c : Classifier) (s : σ) (log : List HostCall)
    (calls : List EngineCall) :
    run host.recorded c (s, log) calls = ((run host c s calls).1, (run host c s calls).2,
      log ++ (journal host c s calls).filterMap (·.2.hostCall?)) := by
  induction calls generalizing c s log with
  | nil => simp [run, journal]
  | cons call calls hi =>
    simp [run, journal, (accounted host c s call).recorded, hi, List.append_assoc]

theorem run_tracks (host : ModuleHost σ) (c : Classifier) (s : σ) (calls : List EngineCall)
    (d : Direction) :
    Tracks (c.modules.index? d) (history d (journal host c s calls))
      ((run host c s calls).1.modules.index? d) := by
  induction calls generalizing c s with
  | nil => exact .refl
  | cons call calls hi =>
    rw [journal, history_append]
    exact (accounted host c s call).tracks d |>.trans (hi _ _)

end EngineCall

open EngineCall

-- What was loaded is tracked, or was given back to the host, or was lost.
def Balanced (events : List ModuleEvent) (tracked : Option ModuleIndex) : Prop :=
  (events.filterMap loaded?).Perm
    (tracked.toList ++ events.filterMap released? ++ events.filterMap lost?)

-- The journal of a run of a new engine has every call of the host. For each direction it is in
-- order and balanced, at the end and wherever it is cut.
theorem modules_conserved {σ : Type} (host : ModuleHost σ) (s : σ) (config : EngineConfig)
    (calls : List EngineCall) :
    let journal := journal host { config } s calls
    let (c, s') := run host { config } s calls
    run host.recorded { config } (s, []) calls = (c, s', journal.filterMap (·.2.hostCall?)) ∧
      ∀ d, Tracks none (history d journal) (c.modules.index? d) ∧
        Balanced (history d journal) (c.modules.index? d) ∧
        ∀ before after, history d journal = before ++ after →
          ∃ tracked, Tracks none before tracked ∧ Tracks tracked after (c.modules.index? d) ∧
            Balanced before tracked := by
  refine ⟨by simpa using run_recorded host { config } s [] calls, fun d => ?_⟩
  have ht := run_tracks host { config } s calls d
  rw [show ({ config } : Classifier).modules.index? d = none by cases d <;> rfl] at ht
  refine ⟨ht, ht.perm, fun before after h => ?_⟩
  have ⟨tracked, hb, ha⟩ := (h ▸ ht).split
  exact ⟨tracked, hb, ha, hb.perm⟩

end AudioRules

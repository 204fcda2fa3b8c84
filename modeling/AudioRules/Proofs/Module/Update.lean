import AudioRules.Proofs.Module.Conservation

namespace AudioRules

namespace ModuleSlots

variable {σ : Type} {m : ModuleSlots} {d : Direction} {data : Device.Data} {host : ModuleHost σ}
  {s : σ} {found : Option ModuleIndex}

-- The direction has what a rule wants. Modules are told apart by name and arguments.
def InLine (m : ModuleSlots) (d : Direction) (data : Device.Data) : Prop :=
  (m.get d).map (·.spec) = data.module?

instance : Decidable (m.InLine d data) :=
  inferInstanceAs (Decidable ((m.get d).map (·.spec) = data.module?))

theorem update_of_inLine (h : m.InLine d data) (host : ModuleHost σ) (s : σ) :
    m.update d data host s = (.ok (m.index? d), m, s) := by
  unfold InLine at h
  cases hm : m.get d with
  | none        => simp [update, load, index?, hm, ← h]
  | some loaded => simp [update, index?, hm, ← h]

theorem set_none_of_get (h : m.get d = none) : m.set d none = m := by
  cases d <;> cases m <;> cases h <;> rfl

theorem update_of_not_inLine (h : ¬m.InLine d data) (host : ModuleHost σ) (s : σ) :
    m.update d data host s =
      (m.set d none).load d data host ((m.get d).elim s (·.unload host s)) := by
  cases hm : m.get d with
  | none        => simp [update, hm, set_none_of_get hm]
  | some loaded =>
    have hn : data.module? ≠ some loaded.spec := fun hs => h (by simp [InLine, hm, hs])
    simp [update, hm, hn]

theorem load_of_ok (hm : m.get d = none) (h : (m.load d data host s).1 = .ok found) :
    (m.load d data host s).2.1.InLine d data ∧ (m.load d data host s).2.1.index? d = found := by
  cases hd : data.module? with
  | none =>
    simp only [load, hd, Except.ok.injEq] at h
    simp [load, hd, InLine, index?, hm, h]
  | some spec =>
    cases hl : host.load spec.name spec.args s with
    | mk result s' =>
      cases result with
      | error e  => simp [load, hd, hl] at h
      | ok index =>
        simp only [load, hd, hl, Except.ok.injEq] at h
        simp [load, hd, hl, InLine, index?, h]

theorem load_of_error (h : (m.load d data host s).1 = .error e) :
    (m.load d data host s).2.1 = m ∧ ∃ spec, data.module? = some spec := by
  cases hd : data.module? with
  | none => simp [load, hd] at h
  | some spec =>
    cases hl : host.load spec.name spec.args s with
    | mk result s' => cases result <;> simp [load, hd, hl] at h ⊢

theorem update_of_ok (h : (m.update d data host s).1 = .ok found) :
    (m.update d data host s).2.1.InLine d data ∧
      (m.update d data host s).2.1.index? d = found := by
  by_cases hi : m.InLine d data
  case pos =>
    rw [update_of_inLine hi] at h ⊢
    exact ⟨hi, Except.ok.inj h⟩
  case neg =>
    rw [update_of_not_inLine hi] at h ⊢
    exact load_of_ok get_set h

theorem update_of_error (h : (m.update d data host s).1 = .error e) :
    (m.update d data host s).2.1.get d = none ∧ ∃ spec, data.module? = some spec := by
  by_cases hi : m.InLine d data
  case pos =>
    rw [update_of_inLine hi] at h
    cases h
  case neg =>
    rw [update_of_not_inLine hi] at h ⊢
    have ⟨hm, hs⟩ := load_of_error h
    exact ⟨(congrArg (·.get d) hm).trans get_set, hs⟩

-- What loading for a rule asks of the host.
def loadCalls (data : Device.Data) (host : ModuleHost σ) (s : σ) : List HostCall :=
  data.module?.toList.map fun spec =>
    .load spec.name spec.args (host.load spec.name spec.args s).1

theorem exists_loadCalls_eq (data : Device.Data) (host : ModuleHost σ) (s : σ) :
    ∃ outcome, loadCalls data host s =
      data.module?.toList.map fun spec => .load spec.name spec.args outcome := by
  unfold loadCalls
  cases data.module? with
  | none      => exact ⟨.ok 0, rfl⟩
  | some spec => exact ⟨(host.load spec.name spec.args s).1, rfl⟩

-- What is tracked goes first, and what the rule wants comes then.
def updateCalls (m : ModuleSlots) (d : Direction) (data : Device.Data) (host : ModuleHost σ)
    (s : σ) : List HostCall :=
  if m.InLine d data then []
  else (m.get d).toList.map (·.release) ++
    loadCalls data host ((m.get d).elim s (·.unload host s))

theorem asks_loadCalls (m : ModuleSlots) (d : Direction) (data : Device.Data)
    (host : ModuleHost σ) (s : σ) :
    Asks (fun host s => (m.load d data host s).2) host s (loadCalls data host s) := by
  intro log
  cases hd : data.module? with
  | none => simp [load, loadCalls, hd]
  | some spec =>
    cases hl : host.load spec.name spec.args s with
    | mk result s' => cases result <;> simp [load, loadCalls, hd, hl, ModuleHost.recorded]

theorem asks_updateCalls (m : ModuleSlots) (d : Direction) (data : Device.Data)
    (host : ModuleHost σ) (s : σ) :
    Asks (fun host s => (m.update d data host s).2) host s (m.updateCalls d data host s) := by
  intro log
  by_cases h : m.InLine d data
  case pos => simp [update_of_inLine h, updateCalls, h]
  case neg =>
    have hr : (m.get d).elim (s, log) (·.unload host.recorded (s, log)) =
        ((m.get d).elim s (·.unload host s), log ++ (m.get d).toList.map (·.release)) := by
      cases m.get d with
      | none        => simp
      | some loaded => exact release_recorded loaded host s log
    have hl := asks_loadCalls (m.set d none) d data host ((m.get d).elim s (·.unload host s))
      (log ++ (m.get d).toList.map (·.release))
    simpa only [update_of_not_inLine h, updateCalls, h, ↓reduceIte, hr, List.append_assoc] using hl

end ModuleSlots

namespace EngineCall

variable {σ : Type} {host : ModuleHost σ} {c c' : Classifier} {s : σ} {d : Direction}
  {label : String} {rule : Device.Rule} {spec : ModuleSpec}

theorem hostCalls_updateModule (hr : (c.devices d).get? label = some rule) (host : ModuleHost σ)
    (s : σ) : (updateModule d label).hostCalls host c s =
      c.modules.updateCalls d rule.data host s :=
  hostCalls_eq (asks_step (step_updateModule hr) (c.modules.asks_updateCalls d rule.data host s))

-- What an update of a direction for a rule comes to, with all that the host is asked meanwhile:
-- 1. the direction has the module of the rule, and the answer is its index
-- 2. or the host has not loaded it, and the direction has none
-- 3. the host is asked nothing if the direction had that module before, and else to release the one
--    that it had and then to load the one that the rule wants
-- 4. the one that it had is released if the rule wants another one, and is kept if not
-- 5. nothing but the module of the direction changes
-- 6. a further update finds nothing to do after a success, and tries again after a failure
structure Settles (c : Classifier) (d : Direction) (label : String) (rule : Device.Rule)
    (calls : List HostCall) (result : Except ModuleError (Option ModuleIndex))
    (c' : Classifier) : Prop where
  inLine   : ∀ found, result = .ok found →
    c'.modules.InLine d rule.data ∧ c'.modules.index? d = found
  emptied  : ∀ e, result = .error e → c'.modules.get d = none
  asked    : if c.modules.InLine d rule.data then calls = []
    else ∃ outcome, calls = (c.modules.get d).toList.map (·.release) ++
      rule.data.module?.toList.map fun spec => .load spec.name spec.args outcome
  released : ∀ loaded, c.modules.get d = some loaded →
    (loaded.release ∈ calls ↔ rule.data.module? ≠ some loaded.spec) ∧
    (c'.modules.get d = some loaded ↔ rule.data.module? = some loaded.spec)
  others   : ∀ d', d' ≠ d → c'.modules.get d' = c.modules.get d'
  tables   : c' = { c with modules := c'.modules }
  again    : ∀ found, result = .ok found → ∀ {τ : Type} (host : ModuleHost τ) (s : τ),
    c'.updateModule d label host s = (.ok found, c', s) ∧
      (updateModule d label).hostCalls host c' s = []
  retries  : ∀ e, result = .error e → ∃ spec, rule.data.module? = some spec ∧
    ∀ {τ : Type} (host : ModuleHost τ) (s : τ), (updateModule d label).hostCalls host c' s =
      [.load spec.name spec.args (host.load spec.name spec.args s).1]

theorem updateModule_eq (hr : (c.devices d).get? label = some rule) (host : ModuleHost σ) (s : σ) :
    c.updateModule d label host s =
      ((c.modules.update d rule.data host s).1,
        { c with modules := (c.modules.update d rule.data host s).2.1 },
        (c.modules.update d rule.data host s).2.2) := by
  simp [Classifier.updateModule, hr]

theorem updateModule_of_empty (h : c.modules.get d = none)
    (hr : (c.devices d).get? label = some rule) (hs : rule.data.module? = some spec)
    (host : ModuleHost σ) (s : σ) :
    (updateModule d label).hostCalls host c s =
        [.load spec.name spec.args (host.load spec.name spec.args s).1] ∧
      (c.updateModule d label host s).1 = (host.load spec.name spec.args s).1.map some := by
  have hi : ¬c.modules.InLine d rule.data := by simp [ModuleSlots.InLine, h, hs]
  rw [hostCalls_updateModule hr, updateModule_eq hr]
  constructor
  case left  => simp [ModuleSlots.updateCalls, hi, h, ModuleSlots.loadCalls, hs]
  case right =>
    simp only [ModuleSlots.update_of_not_inLine hi, ModuleSlots.load, h, hs, Option.elim_none]
    cases host.load spec.name spec.args s with
    | mk result s' => cases result <;> rfl

theorem devices_withModules (c : Classifier) (modules : ModuleSlots) (d : Direction) :
    ({ c with modules } : Classifier).devices d = c.devices d := by
  cases d <;> rfl

theorem mem_updateCalls_release {m : ModuleSlots} {data : Device.Data} {loaded : LoadedModule}
    (hm : m.get d = some loaded) :
    loaded.release ∈ m.updateCalls d data host s ↔ data.module? ≠ some loaded.spec := by
  by_cases h : m.InLine d data
  case pos =>
    have hs : data.module? = some loaded.spec := by simpa [ModuleSlots.InLine, hm] using h.symm
    simp [ModuleSlots.updateCalls, h, hs]
  case neg =>
    have hs : data.module? ≠ some loaded.spec := fun hs => h (by simp [ModuleSlots.InLine, hm, hs])
    simp [ModuleSlots.updateCalls, h, hm, hs]

theorem get_update_eq_iff {m : ModuleSlots} {data : Device.Data} {loaded : LoadedModule}
    (hm : m.get d = some loaded) :
    (m.update d data host s).2.1.get d = some loaded ↔ data.module? = some loaded.spec := by
  constructor
  case mp =>
    intro h
    cases hu : (m.update d data host s).1 with
    | ok found => simpa [ModuleSlots.InLine, h] using (ModuleSlots.update_of_ok hu).1.symm
    | error e  => cases (ModuleSlots.update_of_error hu).1.symm.trans h
  case mpr =>
    intro hs
    have hi : m.InLine d data := by simp [ModuleSlots.InLine, hm, hs]
    rw [ModuleSlots.update_of_inLine hi, hm]

theorem settles (hr : (c.devices d).get? label = some rule) (host : ModuleHost σ) (s : σ) :
    Settles c d label rule ((updateModule d label).hostCalls host c s)
      (c.updateModule d label host s).1 (c.updateModule d label host s).2.1 := by
  have hr' : ((c.updateModule d label host s).2.1.devices d).get? label = some rule := by
    rw [updateModule_eq hr, devices_withModules, hr]
  rw [hostCalls_updateModule hr]
  rw [updateModule_eq hr] at hr' ⊢
  exact {
    inLine found h := ModuleSlots.update_of_ok h
    emptied e h := (ModuleSlots.update_of_error h).1
    asked := by
      unfold ModuleSlots.updateCalls
      split
      case isTrue  => rfl
      case isFalse =>
        have ⟨outcome, hl⟩ := ModuleSlots.exists_loadCalls_eq rule.data host
          ((c.modules.get d).elim s (·.unload host s))
        exact ⟨outcome, congrArg _ hl⟩
    released loaded hm := ⟨mem_updateCalls_release hm, get_update_eq_iff hm⟩
    others d' hd := ModuleSlots.update_preserves hd ..
    tables := rfl
    again found h τ host' s' := by
      have ⟨hi, hf⟩ := ModuleSlots.update_of_ok h
      refine ⟨?_, ?_⟩
      · rw [updateModule_eq hr', ModuleSlots.update_of_inLine hi, hf]
      · rw [hostCalls_updateModule hr']
        exact if_pos hi
    retries e h := by
      have ⟨he, spec, hs⟩ := ModuleSlots.update_of_error h
      exact ⟨spec, hs, fun host' s' => (updateModule_of_empty he hr' hs host' s').1⟩ }

-- An update for a type settles the direction if there is a rule for it, and else does nothing.
theorem update_settles {σ : Type} (host : ModuleHost σ) (c : Classifier) (s : σ) (d : Direction)
    (label : String) :
    match (c.devices d).get? label with
    | some rule => Settles c d label rule ((updateModule d label).hostCalls host c s)
        (c.updateModule d label host s).1 (c.updateModule d label host s).2.1
    | none => c.updateModule d label host s = (.ok (c.modules.index? d), c, s) ∧
        (updateModule d label).hostCalls host c s = [] := by
  split
  case h_1 rule hr => exact settles hr host s
  case h_2 hr =>
    refine ⟨by simp [Classifier.updateModule, hr], ?_⟩
    simp [hostCalls, step_updateModule_of_none hr]

-- For another module, the one that is there goes first.
example :
    let rule : Device.RuleDef := {
      label     := "headset"
      predicate := ⟨.name, .always, none⟩
      module?   := some ⟨"loopback", none⟩ }
    let (c, s) := run .counting {} 0
      [.addDevice .sink rule, .updateModule .sink "headset",
        .addDevice .sink { rule with module? := some ⟨"loopback", some "rate=8000"⟩ }]
    (updateModule .sink "headset").hostCalls .counting c s =
      [.requestUnload 0, .load "loopback" (some "rate=8000") (.ok 1)] :=
  rfl

end EngineCall

end AudioRules

import Mathlib.Tactic.ByContra
import AudioRules.Proofs.Module.Turnover
import AudioRules.Proofs.Module.Update

namespace AudioRules

instance Direction.decidableForall {p : Direction → Prop} [DecidablePred p] :
    Decidable (∀ d, p d) :=
  decidable_of_iff (p .sink ∧ p .source)
    ⟨fun ⟨hk, ho⟩ d => match d with | .sink => hk | .source => ho,
      fun h => ⟨h .sink, h .source⟩⟩

namespace EngineCall

open ModuleEvent

variable {σ : Type} {host : ModuleHost σ} {c : Classifier} {s : σ} {d d' : Direction}
  {call : EngineCall} {calls : List EngineCall} {index : ModuleIndex} {rule : Device.Rule}
  {label : String} {spec : ModuleSpec}

-- What the call loads is not tracked at that time. The direction that it loads for tracks nothing
-- then, so that this is about the other one.
def Fresh (host : ModuleHost σ) (c : Classifier) (s : σ) (call : EngineCall) : Prop :=
  ∀ e ∈ call.events host c s, ∀ index ∈ e.2.loaded?, ∀ d, d ≠ e.1 → c.modules.index? d ≠ some index

-- All loads of a run are fresh.
def LoadsFresh (host : ModuleHost σ) (c : Classifier) (s : σ) : List EngineCall → Prop
  | []            => True
  | call :: calls => call.Fresh host c s ∧
    LoadsFresh host (call.step host c s).1 (call.step host c s).2 calls

-- What is loaded is compared, not every index.
instance : Decidable (call.Fresh host c s) :=
  have (e : Direction × ModuleEvent) :
      Decidable (∀ index ∈ e.2.loaded?, ∀ d, d ≠ e.1 → c.modules.index? d ≠ some index) :=
    Option.decidableForallMem _
  inferInstanceAs (Decidable (∀ e ∈ call.events host c s, ∀ index ∈ e.2.loaded?, ∀ d, d ≠ e.1 →
    c.modules.index? d ≠ some index))

instance LoadsFresh.decidable (host : ModuleHost σ) :
    (c : Classifier) → (s : σ) → (calls : List EngineCall) → Decidable (LoadsFresh host c s calls)
  | _, _, []            => inferInstanceAs (Decidable True)
  | c, s, call :: calls =>
    have := LoadsFresh.decidable host (call.step host c s).1 (call.step host c s).2 calls
    inferInstanceAs (Decidable (_ ∧ _))

theorem Fresh.untracked (h : call.Fresh host c s) (hl : LoadsFor host c s call d index rule)
    (hd : d' ≠ d) : c.modules.index? d' ≠ some index := by
  obtain ⟨label, rfl, _, name, args, hm⟩ := hl
  exact h _ (List.mem_map_of_mem hm) index rfl d' hd

theorem index?_step (h : (call.step host c s).1.modules.index? d = some index) :
    c.modules.index? d = some index ∨ ∃ rule, LoadsFor host c s call d index rule := by
  obtain ⟨loaded, hm, rfl⟩ := Option.map_eq_some_iff.1 h
  rcases slot_eq_some hm with ⟨_, hk⟩ | hl
  case inl => exact .inl (Option.map_eq_some_iff.2 ⟨loaded, hk, rfl⟩)
  case inr => exact .inr hl

theorem step_distinct (h : c.modules.Distinct) (hf : call.Fresh host c s) :
    (call.step host c s).1.modules.Distinct := by
  intro d d' index hi hi'
  by_contra hd
  rcases index?_step hi with hk | ⟨rule, hl⟩ <;> rcases index?_step hi' with hk' | ⟨rule', hl'⟩
  case inl.inl => exact hd (h d d' index hk hk')
  case inl.inr => exact hf.untracked hl' hd hk
  case inr.inl => exact hf.untracked hl (Ne.symm hd) hk'
  case inr.inr =>
    obtain ⟨_, rfl, _⟩ := hl
    obtain ⟨_, hc, _⟩ := hl'
    cases hc
    exact hd rfl

theorem run_distinct (h : c.modules.Distinct) (hf : LoadsFresh host c s calls) :
    (run host c s calls).1.modules.Distinct := by
  induction calls generalizing c s with
  | nil                => exact h
  | cons call calls hi => exact hi (step_distinct h hf.1) hf.2

-- Until an update for the direction.
theorem run_empty (h : c.modules.get d = none) (hu : ∀ label, .updateModule d label ∉ calls) :
    (run host c s calls).1.modules.get d = none := by
  induction calls generalizing c s with
  | nil => exact h
  | cons call calls hi =>
    refine hi (Option.eq_none_iff_forall_ne_some.2 fun loaded hm => ?_) fun label hm =>
      hu label (List.mem_cons_of_mem _ hm)
    rcases slot_eq_some hm with ⟨_, hk⟩ | ⟨_, label, rfl, _⟩
    case inl => cases h.symm.trans hk
    case inr => exact hu label (by simp)

-- What unlinking a module does, and does not do:
-- 1. the host is asked nothing
-- 2. the answer is the direction that tracked the module, if there was one
-- 3. no direction tracks it then, and all others keep theirs
-- 4. if it is unlinked again, there is nothing left to find
-- 5. the next update for the direction loads what its rule wants
structure Forgets (host : ModuleHost σ) (c : Classifier) (s : σ) (index : ModuleIndex) : Prop where
  silent  : (moduleUnlinked index).hostCalls host c s = []
  tracker : ∀ d, (c.moduleUnlinked index).1 = some d ↔ c.modules.index? d = some index
  gone    : ∀ d, (c.moduleUnlinked index).2.modules.index? d ≠ some index
  kept    : ∀ d, (c.moduleUnlinked index).1 ≠ some d →
    (c.moduleUnlinked index).2.modules.get d = c.modules.get d
  once    : (c.moduleUnlinked index).2.moduleUnlinked index = (none, (c.moduleUnlinked index).2)
  reloads : ∀ d, (c.moduleUnlinked index).1 = some d →
    ∀ between, (∀ label, .updateModule d label ∉ between) →
      let (c', s') := run host (c.moduleUnlinked index).2 s between
      ∀ label rule spec, (c'.devices d).get? label = some rule → rule.data.module? = some spec →
        (updateModule d label).hostCalls host c' s' =
            [.load spec.name spec.args (host.load spec.name spec.args s').1] ∧
          (c'.updateModule d label host s').1 = (host.load spec.name spec.args s').1.map some

theorem forgets_of_distinct (h : c.modules.Distinct) (host : ModuleHost σ) (s : σ)
    (index : ModuleIndex) : Forgets host c s index where
  silent    := rfl
  tracker _ := h.unlinked_eq_some_iff
  gone      := h.index?_unlinked
  kept _ hd := ModuleSlots.unlinked_preserves hd
  once      := by simp [Classifier.moduleUnlinked, h.unlinked_unlinked]
  reloads d hd between hu := by
    have he : (c.moduleUnlinked index).2.modules.get d = none := by
      have hd : (c.modules.unlinked index).1 = some d := hd
      simp [Classifier.moduleUnlinked, ModuleSlots.unlinked_snd, hd]
    intro label rule spec hr hs
    exact updateModule_of_empty (run_empty he hu) hr hs host _

-- If no load gives an index that is tracked, the directions never track the same module, and
-- unlinking one forgets that one and no other.
theorem unlinked_of_fresh_loads {σ : Type} (host : ModuleHost σ) (config : EngineConfig) (s : σ)
    (calls : List EngineCall) (h : LoadsFresh host { config } s calls) :
    let (c, s') := run host { config } s calls
    (∀ d d' index, c.modules.index? d = some index → c.modules.index? d' = some index → d = d') ∧
      ∀ index, Forgets host c s' index := by
  have h₀ : ({ config } : Classifier).modules.Distinct := by
    intro d d' index hi
    cases d <;> cases hi
  have hd := run_distinct h₀ h
  exact ⟨hd, forgets_of_distinct hd host _⟩

-- Both directions have a module of the same kind.
def bothLoaded : List EngineCall :=
  let rule : Device.RuleDef :=
    { label := "headset", predicate := ⟨.name, .always, none⟩, module? := some ⟨"loopback", none⟩ }
  [.addDevice .sink rule, .addDevice .source rule,
    .updateModule .sink "headset", .updateModule .source "headset"]

theorem unlinked_of_both_loaded :
    let (c, s) := run .counting {} 0 bothLoaded
    LoadsFresh .counting {} 0 bothLoaded ∧ Forgets .counting c s 1 ∧
      (c.moduleUnlinked 1).1 = some .source := by
  have hf : LoadsFresh .counting {} 0 bothLoaded := by decide
  have h := (unlinked_of_fresh_loads .counting {} 0 bothLoaded hf).2 1
  exact ⟨hf, h, (h.tracker .source).2 (by decide)⟩

end EngineCall

end AudioRules

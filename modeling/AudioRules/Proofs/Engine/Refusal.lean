import AudioRules.Proofs.Engine.Compiled

namespace AudioRules

namespace Classifier

theorem enlistDevice_error? (c : Classifier) (d : Direction) (rule : Device.RuleDef) :
    (c.enlistDevice d rule).1.error? = ((c.vars.inDevice rule).build d.objectKind).error? := by
  rw [enlistDevice, DeviceTable.add]
  cases (c.vars.inDevice rule).build d.objectKind <;> rfl

theorem enlistCard_error? (c : Classifier) (rule : Card.RuleDef) :
    (c.enlistCard rule).1.error? = (c.vars.inCard rule).build.error? := by
  rw [enlistCard, CardTable.add]
  cases (c.vars.inCard rule).build <;> rfl

variable {c : Classifier}

theorem enlistStream_error? (h : c.Compiled) (rule : Stream.RuleDef) :
    (c.enlistStream rule).1.error? = (c.vars.inStream rule).rule?.error? :=
  StreamRules.add_error? h.streams (c.vars.inStream rule)

theorem enlistAppId_error? (h : c.Compiled) (id : String) (spec : Option PredicateSpec)
    (group : String) : (c.enlistAppId id spec group).1.error? = (AppIds.compile? spec).error? :=
  AppIds.register_error? h.appIds id spec group

theorem compiled_of_no_rules (config : EngineConfig) (vars : Variables) (modules : ModuleSlots) :
    Compiled { config, vars, modules } :=
  ⟨fun _ => nofun, fun _ => nofun⟩

end Classifier

namespace EngineCall

-- With which error a definition is refused, if it is.
def refusal? (c : Classifier) : EngineCall → Option PolicyError
  | addDevice d rule            => (c.enlistDevice d rule).1.error?.map .ofRule
  | addCard rule                => (c.enlistCard rule).1.error?.map .ofRule
  | addStream rule              => (c.enlistStream rule).1.error?.map .ofRule
  | registerAppId id spec group => (c.enlistAppId id spec group).1.error?.map .ofMatch
  | _                           => none

-- The same by the definition alone, once the variables in it are replaced.
def refusalIn? (vars : Variables) : EngineCall → Option PolicyError
  | addDevice d rule       => ((vars.inDevice rule).build d.objectKind).error?.map .ofRule
  | addCard rule           => (vars.inCard rule).build.error?.map .ofRule
  | addStream rule         => (vars.inStream rule).rule?.error?.map .ofRule
  | registerAppId _ spec _ => (AppIds.compile? spec).error?.map .ofMatch
  | _                      => none

variable {c : Classifier}

theorem refusal?_eq (h : c.Compiled) (call : EngineCall) :
    call.refusal? c = call.refusalIn? c.vars := by
  cases call
  case addDevice d rule            => simp only [refusal?, refusalIn?, c.enlistDevice_error?]
  case addCard rule                => simp only [refusal?, refusalIn?, c.enlistCard_error?]
  case addStream rule              =>
    simp only [refusal?, refusalIn?, Classifier.enlistStream_error? h]
  case registerAppId id spec group =>
    simp only [refusal?, refusalIn?, Classifier.enlistAppId_error? h]
  all_goals rfl

theorem step_of_refusal {call : EngineCall} (h : call.refusal? c = some e) (host : ModuleHost σ)
    (s : σ) : call.step host c s = (c, s) := by
  have hs {c' : Classifier} (hc : c' = c) : (c', s) = (c, s) := by rw [hc]
  cases call <;>
    simp only [refusal?, reduceCtorEq, Option.map_eq_some_iff, Except.error?_eq_some] at h
  case addDevice d rule =>
    obtain ⟨_, h, _⟩ := h
    exact hs (Classifier.enlistDevice_of_error h)
  case addCard rule =>
    obtain ⟨_, h, _⟩ := h
    exact hs (Classifier.enlistCard_of_error h)
  case addStream rule =>
    obtain ⟨_, h, _⟩ := h
    exact hs (Classifier.enlistStream_of_error h)
  case registerAppId id spec group =>
    obtain ⟨_, h, _⟩ := h
    exact hs (Classifier.enlistAppId_of_error h)

-- After any run, what is refused is what would be refused without any rule, for the same reason,
-- and a refusal changes nothing. What goes for the same as a predicate that is there compiles to it.
theorem registration_atomic (host : ModuleHost σ) (config config' : EngineConfig) (s : σ)
    (calls : List EngineCall) (modules : ModuleSlots) :
    let c := (run host { config } s calls).1
    (∀ call : EngineCall,
      call.refusal? c = call.refusal? { config := config', vars := c.vars, modules }) ∧
    (∀ (call : EngineCall) e s', call.refusal? c = some e → call.step host c s' = (c, s')) ∧
    (∀ r ∈ c.streams.rules, ∀ d : Stream.RuleDef, r.hasFiltersOf d →
      d.predicate? = .ok r.filters.predicate) ∧
    ∀ id entry spec, c.appIds.get? id = some entry → sameOptional entry.predicate spec →
      AppIds.compile? spec = .ok entry.predicate := by
  intro c
  have hc : c.Compiled := run_compiled host config s calls
  refine ⟨fun call => ?_, fun call e s' h => step_of_refusal h host s', fun r hr d hf => ?_, ?_⟩
  · have h₀ := Classifier.compiled_of_no_rules config' c.vars modules
    rw [refusal?_eq hc, refusal?_eq h₀]
  · have hp := (Stream.Rule.hasFiltersOf_iff (hc.streams r hr)).1 hf |>.1
    rw [d.predicate?_eq, hp, Except.mapError_ok]
  · intro id entry spec he hs
    have hp : CompiledOptional entry.predicate := hc.appIds _ (KeyMap.mem_of_get? he)
    exact (sameOptional_iff hp).1 hs

end EngineCall

end AudioRules

import AudioRules.Proofs.Except
import AudioRules.RuleSet.Apply

namespace AudioRules

-- All that changes the engine.
inductive EngineCall
  | setVariable (name value : String)
  | addDevice (d : Direction) (rule : Device.RuleDef)
  | removeDevice (d : Direction) (label : String)
  | addCard (rule : Card.RuleDef)
  | removeCard (label : String)
  | addStream (rule : Stream.RuleDef)
  | updateRoute (route : String)
  | registerAppId (id : String) (spec : Option PredicateSpec) (group : String)
  | unregisterAppId (id : String)
  | load (rules : RuleSet)
  | updateModule (d : Direction) (label : String)
  | reconcileModules (d : Direction) (label : String)
  | invalidateModule (d : Direction)
  | moduleUnlinked (index : ModuleIndex)
  | shutdown

-- Where any host will do.
def ModuleHost.idle : ModuleHost Unit where
  load _ _ s        := (.ok 0, s)
  unload _ s        := s
  requestUnload _ s := s

namespace EngineCall

variable {σ : Type}

def step (host : ModuleHost σ) (c : Classifier) (s : σ) : EngineCall → Classifier × σ
  | setVariable name value      => (c.setVariable name value, s)
  | addDevice d rule            => ((c.enlistDevice d rule).2, s)
  | removeDevice d label        => ((c.removeDevice d label).2, s)
  | addCard rule                => ((c.enlistCard rule).2, s)
  | removeCard label            => ((c.removeCard label).2, s)
  | addStream rule              => ((c.enlistStream rule).2, s)
  | updateRoute route           => (c.updateRoute route, s)
  | registerAppId id spec group => ((c.enlistAppId id spec group).2, s)
  | unregisterAppId id          => ((c.unregisterAppId id).2, s)
  | load rules                  => ((rules.apply c).1, s)
  | updateModule d label        => (c.updateModule d label host s).2
  | reconcileModules d label    => (c.reconcileModules d label host s).2
  | invalidateModule d          => ((c.invalidateModule d).2, s)
  | moduleUnlinked index        => ((c.moduleUnlinked index).2, s)
  | shutdown                    => c.shutdown host s

def run (host : ModuleHost σ) (c : Classifier) (s : σ) : List EngineCall → Classifier × σ
  | []            => (c, s)
  | call :: calls => run host (call.step host c s).1 (call.step host c s).2 calls

variable {host : ModuleHost σ} {c : Classifier} {s : σ}

theorem run_append : run host c s (before ++ after) =
    run host (run host c s before).1 (run host c s before).2 after := by
  induction before generalizing c s with
  | nil                => rfl
  | cons call calls hi => exact hi

-- Calls that set or register something.
def Registers : EngineCall → Prop
  | setVariable .. | addDevice .. | addCard .. | addStream .. | registerAppId .. => True
  | _ => False

theorem Registers.ne_load {call : EngineCall} (h : call.Registers) (rules : RuleSet) :
    call ≠ .load rules :=
  fun hl => by simp [hl, Registers] at h

-- A classifier that registering takes another one to, with no word to the host.
def Registered (c c' : Classifier) : Prop :=
  ∃ calls : List EngineCall, (∀ call ∈ calls, call.Registers) ∧
    ∀ {σ : Type} (host : ModuleHost σ) (s : σ), run host c s calls = (c', s)

namespace Registered

theorem refl (c : Classifier) : Registered c c :=
  ⟨[], by simp, fun _ _ => rfl⟩

theorem trans (h : Registered c c') (h' : Registered c' c'') : Registered c c'' := by
  have ⟨calls, hc, hr⟩ := h
  have ⟨calls', hc', hr'⟩ := h'
  refine ⟨calls ++ calls', fun call hm => ?_, fun host s => ?_⟩
  · exact (List.mem_append.1 hm).elim (hc call) (hc' call)
  · rw [run_append, hr, hr']

theorem of_step (call : EngineCall) (hc : call.Registers)
    (h : ∀ {σ : Type} (host : ModuleHost σ) (s : σ), call.step host c s = (c', s)) :
    Registered c c' :=
  ⟨[call], by simpa using hc, fun host s => by simp [run, h]⟩

theorem induction {P : Classifier → Prop} (h : Registered c c') (hc : P c)
    (hs : ∀ {σ : Type} (host : ModuleHost σ) c s (call : EngineCall), call.Registers → P c →
      P (call.step host c s).1) : P c' := by
  obtain ⟨calls, hr, h⟩ := h
  have hp : P (run .idle c () calls).1 := by
    clear h
    induction calls generalizing c with
    | nil => exact hc
    | cons call calls hi =>
      simp only [List.forall_mem_cons] at hr
      exact hi (hs .idle c () call hr.1 hc) hr.2
  rwa [h] at hp

end Registered

end EngineCall

open EngineCall

theorem Entry.register_registered {enlist : δ → Except ε α × Classifier}
    (definition : Except MatchError δ) (ofError : ε → PolicyError)
    (h : ∀ d, Registered c (enlist d).2) :
    Registered c (register c definition ofError enlist).2 := by
  cases definition with
  | error e => exact .refl c
  | ok d    => exact h d

theorem Entry.install_registered (e : Entry) (c : Classifier) : Registered c (e.install c).2 := by
  cases e <;> rw [install] <;> apply register_registered
  case device d e =>
    intro rule
    exact .of_step (.addDevice d rule) trivial fun _ _ => rfl
  case card e =>
    intro rule
    exact .of_step (.addCard rule) trivial fun _ _ => rfl
  case stream e =>
    intro rule
    exact .of_step (.addStream rule) trivial fun _ _ => rfl
  case appId e =>
    intro spec
    exact .of_step (.registerAppId e.appId spec e.group) trivial fun _ _ => rfl

theorem Entry.apply_fst (e : Entry) (c : Classifier) (report : LoadReport) :
    (e.apply c report).1 = (e.install c).2 := by
  unfold apply
  obtain ⟨result, c'⟩ := e.install c
  cases result <;> rfl

theorem Entry.apply_registered (e : Entry) (c : Classifier) (report : LoadReport) :
    Registered c (e.apply c report).1 := by
  rw [apply_fst]
  exact e.install_registered c

theorem Entry.foldl_registered (es : List Entry) (c : Classifier) (report : LoadReport) :
    Registered c (es.foldl (fun (c, report) e => e.apply c report) (c, report)).1 := by
  induction es generalizing c report with
  | nil          => exact .refl c
  | cons e es hi => exact (e.apply_registered c report).trans (hi ..)

namespace RuleSet

theorem declare_registered (r : RuleSet) (c : Classifier) : Registered c (r.declare c) := by
  unfold declare
  generalize r.vars.entries = vs
  induction vs generalizing c with
  | nil          => exact .refl c
  | cons v vs hi =>
    exact .trans (.of_step (.setVariable v.1 v.2) trivial fun _ _ => rfl) (hi _)

-- A rule set is loaded by calls that anyone could make.
theorem apply_registered (r : RuleSet) (c : Classifier) : Registered c (r.apply c).1 :=
  (r.declare_registered c).trans (Entry.foldl_registered ..)

end RuleSet

-- Loading a rule set preserves what registering preserves.
theorem EngineCall.run_induction {P : Classifier → Prop} {c : Classifier} (hc : P c)
    (hs : ∀ {σ : Type} (host : ModuleHost σ) c s (call : EngineCall),
      (∀ rules, call ≠ .load rules) → P c → P (call.step host c s).1)
    (host : ModuleHost σ) (s : σ) (calls : List EngineCall) : P (run host c s calls).1 := by
  induction calls generalizing c s with
  | nil => exact hc
  | cons call calls hi =>
    refine hi ?_ _
    cases call
    case load rules =>
      refine (rules.apply_registered c).induction hc fun host c s call hr hc => ?_
      exact hs host c s call hr.ne_load hc
    all_goals exact hs host _ _ _ (fun _ => nofun) hc

end AudioRules

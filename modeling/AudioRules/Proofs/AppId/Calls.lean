import Mathlib.Data.Set.Card
import AudioRules.Proofs.Engine.Refusal
import AudioRules.Proofs.KeyMap.Entries
import AudioRules.Proofs.StateMachine
import AudioRules.Proofs.Stream.Resolution

namespace AudioRules

theorem KeyMap.size_eq_ncard (m : KeyMap α) : m.size = {key | (m.get? key).isSome}.ncard := by
  have hk : {key | (m.get? key).isSome} = ((m.entries.map Prod.fst).toFinset : Set String) := by
    ext key
    rw [Set.mem_ofPred, List.coe_toFinset, Set.mem_ofPred, mem_keys_iff]
  rw [hk, Set.ncard_coe_finset, List.toFinset_card_of_nodup m.keys_nodup, List.length_map, size]

inductive AppIdCall
  | register (id : String) (spec : Option PredicateSpec) (group : String)
  -- the predicate that comes with it is not looked at
  | unregister (id : String) (spec : Option PredicateSpec)

inductive AppIdAnswer
  | registered
  | refusal (error : MatchError)
  | unregistered (group : Option String)

def AppIdAnswer.ofResult : Except MatchError Unit → AppIdAnswer
  | .ok ()   => registered
  | .error e => refusal e

-- Where a predicate is written, it compiles and the properties satisfy it.
def PredicateSpec.Admits (spec : Option PredicateSpec) (properties : Proplist) : Prop :=
  ∀ s, spec = some s → ∃ p, Predicate.compile .proplist s = .ok p ∧ p.Matches properties

theorem PredicateSpec.admits_iff {spec : Option PredicateSpec} {predicate : Option Predicate}
    {properties : Proplist} (h : AppIds.compile? spec = .ok predicate) :
    Admits spec properties ↔ ∀ p, predicate = some p → p.Matches properties := by
  cases spec with
  | none =>
    cases h
    simp [Admits]
  | some s =>
    obtain ⟨p, hp, rfl⟩ := Except.map_eq_ok.1 h
    simp [Admits, hp]

theorem AppIds.groupFor?_eq_some {ids : AppIds} {id : String} {properties : Proplist}
    {group : String} : ids.groupFor? id properties = some group ↔
      ∃ entry, ids.get? id = some entry ∧ entry.group = group ∧
        ∀ p, entry.predicate = some p → p.Matches properties := by
  simp only [groupFor?, Option.map_eq_some_iff, Option.filter_eq_some_iff,
    Predicate.all_accepts_iff]
  exact exists_congr fun entry => by rw [and_assoc, and_comm (b := entry.group = group)]

namespace AppIdCall

def step (c : Classifier) : AppIdCall → AppIdAnswer × Classifier
  | register id spec group =>
    (.ofResult (c.enlistAppId id spec group).1, (c.enlistAppId id spec group).2)
  | unregister id _ => (.unregistered (c.unregisterAppId id).1, (c.unregisterAppId id).2)

def machine (config : EngineConfig) : StateMachine AppIdCall AppIdAnswer Classifier where
  start := { config }
  step  := step

-- Registrations that fail have no effect.
def isEffectiveOn (id : String) : AppIdCall → Bool
  | register id' spec _ => id' == id && (AppIds.compile? spec).isOk
  | unregister id' _    => id' == id

def lastOn (id : String) (calls : List AppIdCall) : Option AppIdCall :=
  (calls.filter (·.isEffectiveOn id)).getLast?

-- What an effective call leaves under its id.
def leaves : AppIdCall → Option AppIdEntry
  | register _ spec group =>
    (AppIds.compile? spec).toOption.map fun predicate => { predicate, group }
  | unregister _ _        => none

variable {c : Classifier} {id : String} {calls : List AppIdCall}

theorem lastOn_append_singleton (id : String) (calls : List AppIdCall) (call : AppIdCall) :
    lastOn id (calls ++ [call]) = if call.isEffectiveOn id then some call else lastOn id calls := by
  unfold lastOn
  rw [List.filter_append]
  by_cases h : call.isEffectiveOn id <;> simp [h]

theorem step_register (h : c.Compiled) (id : String) (spec : Option PredicateSpec)
    (group : String) : step c (.register id spec group) =
      match AppIds.compile? spec with
      | .ok predicate => (.registered, { c with appIds := c.appIds.insert id { predicate, group } })
      | .error e      => (.refusal e, c) := by
  rw [step, Classifier.enlistAppId, AppIds.register_eq h.appIds]
  cases AppIds.compile? spec <;> rfl

theorem step_compiled (h : c.Compiled) (call : AppIdCall) : (step c call).2.Compiled := by
  cases call
  case register id spec group =>
    exact ⟨h.streams, AppIds.register_compiled h.appIds id spec group⟩
  case unregister id spec => exact ⟨h.streams, AppIds.unregister_compiled h.appIds id⟩

theorem run_compiled (config : EngineConfig) (calls : List AppIdCall) :
    ((machine config).run calls).Compiled :=
  (machine config).run_invariant (Classifier.compiled_of_no_rules config .empty {})
    (fun _ call h => step_compiled h call) calls

theorem get?_step (h : c.Compiled) (id : String) (call : AppIdCall) :
    (step c call).2.appIds.get? id =
      if call.isEffectiveOn id then call.leaves else c.appIds.get? id := by
  cases call
  case register id' spec group =>
    rw [step_register h]
    by_cases hi : id = id'
    case pos =>
      cases hc : AppIds.compile? spec <;>
        simp [isEffectiveOn, leaves, hi, hc, Except.isOk, Except.toBool, Except.toOption]
    case neg =>
      cases AppIds.compile? spec <;> simp [isEffectiveOn, hi, Ne.symm hi]
  case unregister id' spec =>
    simp [step, Classifier.unregisterAppId, AppIds.unregister, isEffectiveOn, leaves,
      eq_comm (a := id)]

theorem get?_run (config : EngineConfig) (calls : List AppIdCall) (id : String) :
    ((machine config).run calls).appIds.get? id = (lastOn id calls).bind leaves := by
  induction calls using List.reverseRecOn with
  | nil => rfl
  | append_singleton calls call hi =>
    have hs := get?_step (run_compiled config calls) id call
    rw [StateMachine.run_append_singleton, lastOn_append_singleton]
    refine hs.trans ?_
    by_cases he : call.isEffectiveOn id
    case pos => simp [he]
    case neg => simp [he, hi]

theorem isEffectiveOn_of_lastOn {call : AppIdCall} (h : lastOn id calls = some call) :
    call.isEffectiveOn id :=
  (List.mem_filter.1 (List.mem_of_getLast? h)).2

theorem get?_run_eq_some {config : EngineConfig} {entry : AppIdEntry} :
    ((machine config).run calls).appIds.get? id = some entry ↔
      ∃ spec, lastOn id calls = some (.register id spec entry.group) ∧
        AppIds.compile? spec = .ok entry.predicate := by
  rw [get?_run]
  constructor
  case mp =>
    intro h
    have ⟨call, hl, he⟩ := Option.bind_eq_some_iff.1 h
    have hi := isEffectiveOn_of_lastOn hl
    cases call
    case register id' spec group =>
      cases hc : AppIds.compile? spec <;>
        simp [leaves, isEffectiveOn, hc, Except.toOption, Except.isOk, Except.toBool] at he hi
      exact ⟨spec, by rw [hl, hi, ← he], by rw [hc, ← he]⟩
    case unregister => cases he
  case mpr =>
    rintro ⟨spec, hl, hc⟩
    simp [hl, leaves, hc, Except.toOption]

-- The last effective registration has compiled.
theorem exists_get?_run_of_lastOn (config : EngineConfig) {spec : Option PredicateSpec}
    {group : String} (h : lastOn id calls = some (.register id spec group)) :
    ∃ predicate, AppIds.compile? spec = .ok predicate ∧
      ((machine config).run calls).appIds.get? id = some { predicate, group } := by
  have hi := isEffectiveOn_of_lastOn h
  cases hc : AppIds.compile? spec with
  | error e      => simp [isEffectiveOn, hc, Except.isOk, Except.toBool] at hi
  | ok predicate => exact ⟨predicate, rfl, get?_run_eq_some.2 ⟨spec, h, hc⟩⟩

theorem groupFor?_run (config : EngineConfig) (calls : List AppIdCall) (id : String)
    (properties : Proplist) (group : String) :
    ((machine config).run calls).appIds.groupFor? id properties = some group ↔
      ∃ spec, lastOn id calls = some (.register id spec group) ∧
        PredicateSpec.Admits spec properties := by
  rw [AppIds.groupFor?_eq_some]
  constructor
  case mp =>
    rintro ⟨entry, he, rfl, hp⟩
    have ⟨spec, hl, hc⟩ := get?_run_eq_some.1 he
    exact ⟨spec, hl, (PredicateSpec.admits_iff hc).2 hp⟩
  case mpr =>
    rintro ⟨spec, hl, hp⟩
    have ⟨predicate, hc, he⟩ := exists_get?_run_of_lastOn config hl
    exact ⟨_, he, rfl, (PredicateSpec.admits_iff hc).1 hp⟩

theorem group_run (config : EngineConfig) (calls : List AppIdCall) (id group : String) :
    (((machine config).run calls).appIds.get? id).map (·.group) = some group ↔
      ∃ spec, lastOn id calls = some (.register id spec group) := by
  rw [Option.map_eq_some_iff]
  constructor
  case mp =>
    rintro ⟨entry, he, rfl⟩
    have ⟨spec, hl, _⟩ := get?_run_eq_some.1 he
    exact ⟨spec, hl⟩
  case mpr =>
    rintro ⟨spec, hl⟩
    have ⟨_, _, he⟩ := exists_get?_run_of_lastOn config hl
    exact ⟨_, he, rfl⟩

-- After any calls:
-- 1. an id has the group of the last effective call on it, if that was a registration and the
--    properties satisfy what it asks
-- 2. a registration fails if and only if its predicate does not compile, and else replaces the
--    whole entry
-- 3. unregistering gives the group that is there, with whatever predicate it comes
-- 4. there are as many entries as ids that are registered last
theorem last_call_counts (config : EngineConfig) (calls : List AppIdCall) :
    let c := (machine config).run calls
    (∀ id properties group, c.appIds.groupFor? id properties = some group ↔
      ∃ spec, lastOn id calls = some (.register id spec group) ∧
        PredicateSpec.Admits spec properties) ∧
    (∀ id spec group, step c (.register id spec group) =
      match AppIds.compile? spec with
      | .ok predicate => (.registered, { c with appIds := c.appIds.insert id { predicate, group } })
      | .error e      => (.refusal e, c)) ∧
    (∀ id spec, ∃ group?, (step c (.unregister id spec)).1 = .unregistered group? ∧
      ∀ group, group? = some group ↔ ∃ spec', lastOn id calls = some (.register id spec' group)) ∧
    c.appIds.size = {id | ∃ spec group, lastOn id calls = some (.register id spec group)}.ncard := by
  intro c
  have hc : c.Compiled := run_compiled config calls
  refine ⟨groupFor?_run config calls, step_register hc,
    fun id spec => ⟨_, rfl, group_run config calls id⟩, ?_⟩
  rw [KeyMap.size_eq_ncard]
  congr 1
  ext id
  rw [Set.mem_ofPred, Set.mem_ofPred, ← Option.isSome_map, Option.isSome_iff_exists, exists_comm]
  exact exists_congr fun group => group_run config calls id group

end AppIdCall

end AudioRules

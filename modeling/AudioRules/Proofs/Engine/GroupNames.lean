import AudioRules.Proofs.AppId.Calls
import AudioRules.Proofs.RuleSet.AppIds
import AudioRules.Proofs.Stream.Activity

namespace AudioRules

variable {id group : String} {entry : AppIdEntry}

theorem AppIdSetting.registration?_eq_some {a : AppIdSetting}
    (h : a.registration? = some (id, entry)) : a.appId = id ∧ a.group = entry.group := by
  have ⟨entry', he, hi⟩ := Option.map_eq_some_iff.1 h
  cases hi
  simp only [toEntry, Except.toOption_eq_some, Except.bind_eq_ok, Except.pure_eq_ok] at he
  obtain ⟨_, _, _, _, rfl⟩ := he
  exact ⟨rfl, rfl⟩

namespace EngineCall

-- A call that may put an application id into a group.
def Assigns (id group : String) : EngineCall → Prop
  | registerAppId id' _ group' => id' = id ∧ group' = group
  | load rules                 => ∃ a ∈ rules.appIds, a.appId = id ∧ a.group = group
  | _                          => False

-- What a call asks of the application ids.
def appIdCall? : EngineCall → Option AppIdCall
  | registerAppId id spec group => some (.register id spec group)
  | unregisterAppId id          => some (.unregister id none)
  | _                           => none

variable {host : ModuleHost σ} {c : Classifier} {call : EngineCall}

theorem step_appIds (hl : ∀ rules, call ≠ .load rules) (s : σ) :
    (call.step host c s).1.appIds =
      call.appIdCall?.elim c.appIds fun ac => (ac.step c).2.appIds := by
  cases call
  case load rules           => exact absurd rfl (hl rules)
  case addDevice d rule     => cases d <;> rfl
  case removeDevice d label => cases d <;> rfl
  case updateModule d label =>
    obtain ⟨_, hm⟩ := exists_step_updateModule host c s d label
    exact hm ▸ rfl
  all_goals rfl

theorem assigns_of_leaves {ac : AppIdCall} (ha : call.appIdCall? = some ac)
    (hi : ac.isEffectiveOn id) (hl : ac.leaves = some entry) : call.Assigns id entry.group := by
  cases call <;> cases ha
  case registerAppId id' spec group =>
    have ⟨_, _, he⟩ := Option.map_eq_some_iff.1 hl
    have ⟨hi, _⟩ := (Bool.and_eq_true _ _).mp hi
    exact ⟨beq_iff_eq.1 hi, he ▸ rfl⟩
  case unregisterAppId => cases hl

-- An entry was there before, or the call has put it there.
theorem assigned_of_step (h : c.Compiled) {s : σ}
    (he : (call.step host c s).1.appIds.get? id = some entry) :
    c.appIds.get? id = some entry ∨ call.Assigns id entry.group := by
  by_cases hl : ∃ rules, call = .load rules
  case pos =>
    obtain ⟨rules, rfl⟩ := hl
    simp only [step, RuleSet.apply_appIds h, KeyMap.get?_merge, Option.or_eq_some_iff] at he
    rcases he with he | ⟨_, he⟩
    case inl =>
      obtain ⟨a, ha, hr⟩ := List.mem_filterMap.1 (KeyMap.mem_of_get?_ofList he)
      exact .inr ⟨a, ha, AppIdSetting.registration?_eq_some hr⟩
    case inr => exact .inl he
  case neg =>
    rw [step_appIds (not_exists.1 hl)] at he
    cases ha : call.appIdCall? with
    | none =>
      rw [ha] at he
      exact .inl he
    | some ac =>
      rw [ha, Option.elim, AppIdCall.get?_step h] at he
      split at he
      case isTrue hi => exact .inr (assigns_of_leaves ha hi he)
      case isFalse => exact .inl he

theorem assigned_of_run {config : EngineConfig} {s : σ} {calls : List EngineCall}
    (he : (run host { config } s calls).1.appIds.get? id = some entry) :
    ∃ call ∈ calls, call.Assigns id entry.group := by
  induction calls using List.reverseRecOn with
  | nil => cases he
  | append_singleton calls call hi =>
    rw [run_append] at he
    cases assigned_of_step (run_compiled host config s calls) he
    case inl he =>
      have ⟨call', hm, ha⟩ := hi he
      exact ⟨call', List.mem_append_left _ hm, ha⟩
    case inr ha => exact ⟨call, List.mem_append_right _ (List.mem_singleton_self call), ha⟩

-- Only an application id can keep a stream out of all groups that have a name.
theorem resolveGroup_nameless_iff (hr : ∀ r ∈ c.streams.rules, r.WellFormed)
    (hd : c.config.defaultGroup ≠ "") (client? : Option ClientInfo) (properties : Proplist)
    (groups : GroupDirectory) : (c.resolveGroup client? properties groups).1.group = "" ↔
      ∃ entry, c.AppIdClaims client? properties entry ∧ entry.group = "" := by
  constructor
  case mp =>
    intro hg
    have h := c.resolveGroup_resolves client? properties groups
    generalize (c.resolveGroup client? properties groups).1 = group,
      (c.resolveGroup client? properties groups).2 = properties' at h hg
    cases h
    case appId entry hc => exact ⟨entry, hc, hg⟩
    case streamRule r _ hs _ =>
      obtain ⟨before, after, hb, _⟩ := hs.first
      exact absurd hg (hr r (by simp [hb])).group
    case default => exact absurd hg hd
  case mpr =>
    rintro ⟨entry, hc, hg⟩
    rw [(Classifier.Resolves.appId hc).resolveGroup_eq]
    exact hg

-- After any run of an engine whose default group has a name:
-- 1. a stream is in a group without a name if and only if an application id that claims it is
-- 2. an application id is in a group that a call has put it into
-- 3. so no stream is in a group without a name if no call puts an application id into one
theorem group_named_unless_assigned (host : ModuleHost σ) (config : EngineConfig) (s : σ)
    (calls : List EngineCall) (hd : config.defaultGroup ≠ "") :
    let c := (run host { config } s calls).1
    (∀ client? properties groups, (c.resolveGroup client? properties groups).1.group = "" ↔
      ∃ entry, c.AppIdClaims client? properties entry ∧ entry.group = "") ∧
    (∀ id entry, c.appIds.get? id = some entry → ∃ call ∈ calls, call.Assigns id entry.group) ∧
    ((∀ call ∈ calls, ∀ id, ¬call.Assigns id "") → ∀ client? properties groups,
      (c.resolveGroup client? properties groups).1.group ≠ "") := by
  intro c
  have hr : ∀ r ∈ c.streams.rules, r.WellFormed := (run_sound host config s calls).wellFormed
  have hc : c.config = config := run_config host { config } s calls
  have hn := resolveGroup_nameless_iff hr (hc ▸ hd)
  refine ⟨hn, fun _ _ => assigned_of_run, fun ha client? properties groups hg => ?_⟩
  have ⟨entry, hc, he⟩ := (hn client? properties groups).1 hg
  have ⟨_, id, _, _, hi⟩ := hc.registered
  have ⟨call, hm, hid⟩ := assigned_of_run hi
  exact ha call hm id (he ▸ hid)

theorem group_named_behind_variable :
    let calls : List EngineCall := [
      .setVariable "$media" "player",
      .addStream { filters := { uid := some 1000 }, group := "$media" },
      .registerAppId "org.example.Player" none "player"]
    let c := (run .idle {} () calls).1
    c.config.defaultGroup ≠ "" ∧ ∀ client? properties groups,
      (c.resolveGroup client? properties groups).1.group ≠ "" := by
  intro calls c
  have hd : ({} : EngineConfig).defaultGroup ≠ "" := by decide
  refine ⟨hd, (group_named_unless_assigned .idle {} () calls hd).2.2 fun call hm id ha => ?_⟩
  simp only [calls, List.mem_cons, List.not_mem_nil, or_false] at hm
  rcases hm with rfl | rfl | rfl
  case inl     => exact ha
  case inr.inl => exact ha
  case inr.inr => exact absurd ha.2 (by decide)

-- An id that is registered without a group name.
theorem nameless_group_by_appId :
    ¬∀ (config : EngineConfig) (calls : List EngineCall), config.defaultGroup ≠ "" →
      ∀ client? properties groups, ((run .idle { config } () calls).1.resolveGroup client?
        properties groups).1.group ≠ "" := by
  intro h
  let client : ClientInfo := { name := "player", appId := some "org.example.Player" }
  exact h {} [.registerAppId "org.example.Player" none ""] (by decide) (some client) .empty
    .everyStatic (by decide +kernel)

end EngineCall

end AudioRules

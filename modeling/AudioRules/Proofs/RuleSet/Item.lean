import AudioRules.Proofs.Engine.Compiled
import AudioRules.Proofs.RuleSet.Writes

namespace AudioRules

-- What an entry comes to if it is not refused.
inductive Item
  | device (d : Direction) (label : String) (rule : Device.Rule)
  | card (label : String) (rule : Card.Rule)
  | stream (rule : Stream.Rule)
  | appId (id : String) (entry : AppIdEntry)

namespace Item

inductive Key
  | device (d : Direction) (label : String)
  | card (label : String)
  | stream (filters : Stream.Filters Predicate)
  | appId (id : String)
deriving DecidableEq

def key : Item → Key
  | device d label _ => .device d label
  | card label _     => .card label
  | stream rule      => .stream rule.filters
  | appId id _       => .appId id

def put (c : Classifier) : Item → Classifier
  | device d label rule => c.setDevices d ⟨(c.devices d).rules.put label rule⟩
  | card label rule     => { c with cards := ⟨c.cards.rules.put label rule⟩ }
  | stream rule         => { c with streams := ⟨Stream.byFilters.put rule.unrouted c.streams.rules⟩ }
  | appId id entry      => { c with appIds := c.appIds.insert id entry }

end Item

namespace Classifier

-- Where the order of entries is that of their first writes.
def Has (c : Classifier) : Item.Key → Prop
  | .device d label => label ∈ (c.devices d).rules.labels
  | .card label     => label ∈ c.cards.rules.labels
  | .stream filters => filters ∈ c.streams.rules.map (·.filters)
  | .appId _        => True

end Classifier

namespace Entry

def item (vars : Variables) : Entry → Except PolicyError Item
  | device d e => do
    let rule ← (e.toDef vars).mapError .ofMatch
    let built ← ((vars.inDevice rule).build d.objectKind).mapError .ofRule
    return .device d (vars.inDevice rule).label built
  | card e => do
    let rule ← (e.toDef vars).mapError .ofMatch
    let built ← (vars.inCard rule).build.mapError .ofRule
    return .card (vars.inCard rule).label built
  | stream e => do
    let rule ← (e.toDef vars).mapError .ofMatch
    let built ← (vars.inStream rule).rule?.mapError .ofRule
    return .stream built
  | appId e => do
    let spec ← (PredicateSpec.parseOpt e.predicate).mapError .ofMatch
    let predicate ← (AppIds.compile? spec).mapError .ofMatch
    return .appId e.appId { predicate, group := e.group }

variable {c : Classifier}

-- The item is put where it belongs; an error changes nothing.
def settle (c : Classifier) : Except PolicyError Item → Except PolicyError Unit × Classifier
  | .ok i    => (.ok (), i.put c)
  | .error e => (.error e, c)

theorem register_eq {enlist : δ → Except ε α × Classifier} {ofError : ε → PolicyError}
    {itemOf : δ → Except PolicyError Item} (definition : Except MatchError δ)
    (h : ∀ d, register c (.ok d) ofError enlist = settle c (itemOf d)) :
    register c definition ofError enlist =
      settle c (definition.mapError .ofMatch >>= itemOf) := by
  cases definition with
  | error e => rfl
  | ok d    => exact h d

theorem install_eq (h : c.Compiled) (e : Entry) : e.install c = settle c (e.item c.vars) := by
  cases e <;> rw [install, item] <;> apply register_eq
  case device d e =>
    intro rule
    rw [register, Classifier.enlistDevice, DeviceTable.add]
    cases (c.vars.inDevice rule).build d.objectKind with
    | error e => exact congrArg (Prod.mk _) (c.setDevices_devices d)
    | ok built => rfl
  case card e =>
    intro rule
    rw [register, Classifier.enlistCard, CardTable.add]
    cases (c.vars.inCard rule).build <;> rfl
  case stream e =>
    intro rule
    rw [register, Classifier.enlistStream]
    cases hr : (c.vars.inStream rule).rule? with
    | error e =>
      rw [StreamRules.add_of_rule?_error h.streams hr]
      rfl
    | ok built =>
      obtain ⟨_, ha⟩ := StreamRules.exists_add_of_rule? h.streams hr
      have hp : Item.put c (.stream built) =
          { c with streams := ⟨Stream.byFilters.put built c.streams.rules⟩ } := by
        rw [Item.put, Stream.RuleDef.unrouted_of_rule? hr]
      rw [ha]
      exact congrArg (Prod.mk _) hp.symm
  case appId e =>
    intro spec
    rw [register, Classifier.enlistAppId, AppIds.register_eq h.appIds]
    cases AppIds.compile? spec <;> rfl

end Entry

namespace Item

variable {c : Classifier}

theorem has_put {i : Item} : (i.put c).Has i.key := by
  cases i
  case device d label rule => cases d <;> exact RuleTable.mem_labels_put.2 (.inr rfl)
  case card label rule => exact RuleTable.mem_labels_put.2 (.inr rfl)
  case stream rule => exact Keyed.mem_keys_put (K := Stream.byFilters) |>.2 (.inr rfl)
  case appId id entry => trivial

theorem has_mono {i : Item} (h : c.Has k) : (i.put c).Has k := by
  cases i <;> cases k
  case device.device d label rule d' label' =>
    cases d <;> cases d' <;> first | exact h | exact RuleTable.mem_labels_put.2 (.inl h)
  case card.card => exact RuleTable.mem_labels_put.2 (.inl h)
  case stream.stream => exact Keyed.mem_keys_put (K := Stream.byFilters) |>.2 (.inl h)
  case device.card d _ _ _ => cases d <;> exact h
  case device.stream d _ _ _ => cases d <;> exact h
  all_goals exact h

theorem put_put {i j : Item} (h : i.key = j.key) : j.put (i.put c) = j.put c := by
  cases i <;> cases j <;>
    simp only [key, reduceCtorEq, Key.device.injEq, Key.card.injEq, Key.stream.injEq,
      Key.appId.injEq] at h
  case device.device d label rule d' label' rule' =>
    obtain ⟨rfl, rfl⟩ := h
    simp [put, RuleTable.put_put]
  case card.card label rule label' rule' =>
    subst h
    simp [put, RuleTable.put_put]
  case stream.stream r r' =>
    simp only [put]
    rw [Keyed.put_put_of_key_eq h (Stream.revise_unrouted h)]
  case appId.appId id entry id' entry' =>
    subst h
    simp [put, KeyMap.insert_insert]

theorem put_comm {i j : Item} (h : i.key ≠ j.key) (hc : c.Has i.key) :
    j.put (i.put c) = i.put (j.put c) := by
  cases i <;> cases j
  case device.device d label rule d' label' rule' =>
    by_cases hd : d = d'
    case pos =>
      subst hd
      have hl : label ≠ label' := fun hl => h (hl ▸ rfl)
      simp [put, RuleTable.put_comm hl hc]
    case neg => cases d <;> cases d' <;> first | rfl | exact absurd rfl hd
  case device.card d _ _ _ _ => cases d <;> rfl
  case device.stream d _ _ _ => cases d <;> rfl
  case device.appId d _ _ _ _ => cases d <;> rfl
  case card.device d _ _ => cases d <;> rfl
  case card.card label rule label' rule' =>
    have hl : label ≠ label' := fun hl => h (hl ▸ rfl)
    simp [put, RuleTable.put_comm hl hc]
  case stream.device d _ _ => cases d <;> rfl
  case stream.stream r r' =>
    have hf : Stream.byFilters.key r.unrouted ≠ Stream.byFilters.key r'.unrouted :=
      fun hf => h (congrArg Key.stream hf)
    simp only [put, Keyed.put_comm hf (.inl hc)]
  case appId.device d _ _ => cases d <;> rfl
  case appId.appId id entry id' entry' =>
    have hi : id ≠ id' := fun hi => h (hi ▸ rfl)
    simp [put, KeyMap.insert_comm _ hi]
  all_goals rfl

def writes : Writes Item Key Classifier :=
  { key, put := fun i c => i.put c, Has := fun k c => c.Has k, has_put, has_mono, put_put, put_comm }

end Item

end AudioRules

import AudioRules.Classifier
import AudioRules.Proofs.KeyMap

namespace AudioRules

-- A property list has no text but its properties.
inductive Predicate.Matches (p : Predicate) (properties : Proplist) : Prop
  | always : p.test = .always → Matches p properties
  | property : p.target = .property key → properties.get? key = some value → p.test.holds value →
      Matches p properties

theorem Predicate.accepts_ofProplist_iff (p : Predicate) (properties : Proplist) :
    p.accepts (.ofProplist properties) ↔ p.Matches properties := by
  rw [accepts, Bool.or_eq_true, beq_iff_eq, Option.any_eq_true]
  constructor
  case mp =>
    rintro (ha | ⟨value, hs, hv⟩)
    case inl => exact .always ha
    case inr =>
      cases ht : p.target <;> simp [ht, subject, HostObject.ofProplist, HostObject.property?] at hs
      exact .property ht hs hv
  case mpr =>
    intro h
    cases h
    case always ha => exact .inl ha
    case property key value ht hs hv =>
      exact .inr ⟨value, by rwa [ht], hv⟩

-- For the predicates that are optional.
theorem Predicate.all_accepts_iff (p? : Option Predicate) (properties : Proplist) :
    p?.all (·.accepts (.ofProplist properties)) ↔ ∀ p, p? = some p → p.Matches properties := by
  simp [Option.all_eq_true, accepts_ofProplist_iff]

theorem GroupDirectory.isActive_iff {groups : GroupDirectory} {group : String} :
    groups.isActive group ↔
      groups.sink? group = some .static ∨ groups.sink? group = some (.dynamic true) := by
  unfold isActive
  cases h : groups.sink? group with
  | none => simp
  | some sink => cases sink <;> simp [GroupSink.isActive]

namespace Classifier

variable {client? : Option ClientInfo} {properties : Proplist}

theorem queryOf_client_iff : (queryOf client? properties).client = some name ↔
    ∃ client, client? = some client ∧ client.name = name := by
  cases client? <;> simp [queryOf]

theorem queryOf_uid_iff : (queryOf client? properties).uid = some uid ↔
    ∃ client, client? = some client ∧ client.uid = some uid := by
  cases client? <;> simp [queryOf]

theorem queryOf_exe_iff : (queryOf client? properties).exe = some exe ↔
    (∃ client, client? = some client ∧ client.exe = some exe) ∨
      client? = none ∧ properties.get? "application.process.binary" = some exe := by
  cases client? <;> simp [queryOf]

end Classifier

namespace Stream.Rule

theorem passes_iff [BEq β] [LawfulBEq β] {filter value : Option β} :
    passes filter value ↔ ∀ b, filter = some b → value = some b := by
  cases filter with
  | none   => simp [passes]
  | some b => simp [passes, eq_comm (b := value)]

-- What a rule asks of a stream. The properties are those that the stream has before a rule adds
-- its own to them.
structure Accepts (r : Rule) (client? : Option ClientInfo) (properties : Proplist)
    (groups : GroupDirectory) : Prop where
  predicate : ∀ p, r.filters.predicate = some p → p.Matches properties
  -- Without a client there is no name and no user.
  client : ∀ name, r.filters.client = some name →
    ∃ client, client? = some client ∧ client.name = name
  uid : ∀ uid, r.filters.uid = some uid → ∃ client, client? = some client ∧ client.uid = some uid
  exe : ∀ exe, r.filters.exe = some exe →
    (∃ client, client? = some client ∧ client.exe = some exe) ∨
      client? = none ∧ properties.get? "application.process.binary" = some exe
  active : r.activity ≠ .inactive
  group : groups.sink? r.group = some .static ∨ groups.sink? r.group = some (.dynamic true)

theorem accepts_iff (r : Rule) (client? : Option ClientInfo) (properties : Proplist)
    (groups : GroupDirectory) :
    r.accepts properties (Classifier.queryOf client? properties) groups ↔
      r.Accepts client? properties groups := by
  simp only [accepts, Bool.and_eq_true, Predicate.all_accepts_iff, passes_iff, bne_iff_ne,
    GroupDirectory.isActive_iff, Classifier.queryOf_client_iff, Classifier.queryOf_uid_iff,
    Classifier.queryOf_exe_iff]
  constructor
  case mp =>
    intro ⟨⟨⟨⟨⟨predicate, client⟩, uid⟩, active⟩, group⟩, exe⟩
    exact { predicate, client, uid, exe, active, group }
  case mpr =>
    intro h
    exact ⟨⟨⟨⟨⟨h.predicate, h.client⟩, h.uid⟩, h.active⟩, h.group⟩, h.exe⟩

end Stream.Rule

-- Key by key, what the overlay of a rule has comes first.
def Stream.Rule.Overlays (r : Rule) (properties properties' : Proplist) : Prop :=
  ∀ key, properties'.get? key = (r.overlay.bind (·.get? key)).or (properties.get? key)

theorem Stream.Rule.overlays_iff (r : Rule) (properties properties' : Proplist) :
    r.Overlays properties properties' ↔
      r.overlay.elim properties properties.merge = properties' := by
  constructor
  case mp =>
    intro h
    refine KeyMap.ext_get? fun key => ?_
    cases ho : r.overlay <;> simp [h key, ho]
  case mpr =>
    rintro rfl key
    cases r.overlay <;> simp

namespace StreamRules

variable {s : StreamRules} {client? : Option ClientInfo} {properties : Proplist}
  {groups : GroupDirectory}

-- The first rule that accepts a stream.
structure Selects (s : StreamRules) (client? : Option ClientInfo) (properties : Proplist)
    (groups : GroupDirectory) (r : Stream.Rule) : Prop where
  accepts : r.Accepts client? properties groups
  first : ∃ before after, s.rules = before ++ r :: after ∧
    ∀ r' ∈ before, ¬r'.Accepts client? properties groups

theorem find?_eq_some_iff :
    s.find? properties (Classifier.queryOf client? properties) groups = some r ↔
      s.Selects client? properties groups r := by
  simp only [find?, List.find?_eq_some_iff_append, Bool.not_eq_true', ← Bool.not_eq_true,
    Stream.Rule.accepts_iff]
  exact ⟨fun ⟨ha, hf⟩ => ⟨ha, hf⟩, fun ⟨ha, hf⟩ => ⟨ha, hf⟩⟩

theorem find?_eq_none_iff :
    s.find? properties (Classifier.queryOf client? properties) groups = none ↔
      ∀ r ∈ s.rules, ¬r.Accepts client? properties groups := by
  simp only [find?, List.find?_eq_none, Stream.Rule.accepts_iff]

end StreamRules

namespace Classifier

variable {c : Classifier} {client? : Option ClientInfo} {properties : Proplist}
  {groups : GroupDirectory}

-- The application id of the client is registered, and for streams like this one.
structure AppIdClaims (c : Classifier) (client? : Option ClientInfo) (properties : Proplist)
    (entry : AppIdEntry) : Prop where
  registered : ∃ client id, client? = some client ∧ client.appId = some id ∧
    c.appIds.get? id = some entry
  predicate : ∀ p, entry.predicate = some p → p.Matches properties

def appIdClaim? (c : Classifier) (client? : Option ClientInfo) (properties : Proplist) :
    Option AppIdEntry :=
  client?.bind fun client => client.appId.bind fun id =>
    (c.appIds.get? id).filter (·.predicate.all (·.accepts (.ofProplist properties)))

theorem appIdClaim?_eq_some_iff :
    c.appIdClaim? client? properties = some entry ↔ c.AppIdClaims client? properties entry := by
  simp only [appIdClaim?, Option.bind_eq_some_iff, Option.filter_eq_some_iff,
    Predicate.all_accepts_iff]
  constructor
  case mp  => exact fun ⟨client, hc, id, hi, hr, hp⟩ => ⟨⟨client, id, hc, hi, hr⟩, hp⟩
  case mpr => exact fun ⟨⟨client, id, hc, hi, hr⟩, hp⟩ => ⟨client, hc, id, hi, hr, hp⟩

theorem appIdClaim?_eq_none_iff :
    c.appIdClaim? client? properties = none ↔
      ∀ entry, ¬c.AppIdClaims client? properties entry := by
  simp only [Option.eq_none_iff_forall_ne_some, ne_eq, appIdClaim?_eq_some_iff]

theorem resolveGroup_eq_stages : c.resolveGroup client? properties groups =
    match c.appIdClaim? client? properties with
    | some entry => (⟨entry.group, .none, .appId⟩, properties)
    | none =>
      match c.streams.find? properties (queryOf client? properties) groups with
      | some r => (⟨r.group, r.flags, .streamRule⟩, r.overlay.elim properties properties.merge)
      | none   => (⟨c.config.defaultGroup, .none, .default⟩, properties) := by
  have hg : (client?.bind fun client => client.appId.bind fun id =>
      c.appIds.groupFor? id properties) = (c.appIdClaim? client? properties).map (·.group) := by
    simp only [appIdClaim?, AppIds.groupFor?, Option.map_bind, Function.comp_def]
  simp only [resolveGroup, hg, StreamRules.resolve?]
  cases c.appIdClaim? client? properties with
  | some entry => rfl
  | none =>
    cases c.streams.find? properties (queryOf client? properties) groups <;> rfl

inductive Resolves (c : Classifier) (client? : Option ClientInfo) (properties : Proplist)
    (groups : GroupDirectory) : StreamGroup → Proplist → Prop
  | appId : c.AppIdClaims client? properties entry →
      Resolves c client? properties groups ⟨entry.group, .none, .appId⟩ properties
  | streamRule : (∀ entry, ¬c.AppIdClaims client? properties entry) →
      c.streams.Selects client? properties groups r → r.Overlays properties properties' →
      Resolves c client? properties groups ⟨r.group, r.flags, .streamRule⟩ properties'
  | default : (∀ entry, ¬c.AppIdClaims client? properties entry) →
      (∀ r ∈ c.streams.rules, ¬r.Accepts client? properties groups) →
      Resolves c client? properties groups ⟨c.config.defaultGroup, .none, .default⟩ properties

theorem resolveGroup_resolves (c : Classifier) (client? : Option ClientInfo)
    (properties : Proplist) (groups : GroupDirectory) :
    c.Resolves client? properties groups (c.resolveGroup client? properties groups).1
      (c.resolveGroup client? properties groups).2 := by
  rw [resolveGroup_eq_stages]
  cases hc : c.appIdClaim? client? properties with
  | some entry => exact .appId (appIdClaim?_eq_some_iff.1 hc)
  | none =>
    have hc := appIdClaim?_eq_none_iff.1 hc
    cases hr : c.streams.find? properties (queryOf client? properties) groups with
    | some r =>
      have ho := (r.overlays_iff properties _).2 rfl
      exact .streamRule hc (StreamRules.find?_eq_some_iff.1 hr) ho
    | none => exact .default hc (StreamRules.find?_eq_none_iff.1 hr)

theorem Resolves.resolveGroup_eq (h : c.Resolves client? properties groups group properties') :
    c.resolveGroup client? properties groups = (group, properties') := by
  rw [resolveGroup_eq_stages]
  cases h
  case appId hc => rw [appIdClaim?_eq_some_iff.2 hc]
  case streamRule r hc hr ho =>
    rw [appIdClaim?_eq_none_iff.2 hc, StreamRules.find?_eq_some_iff.2 hr,
      ← (r.overlays_iff ..).1 ho]
  case default hc hr => rw [appIdClaim?_eq_none_iff.2 hc, StreamRules.find?_eq_none_iff.2 hr]

theorem resolveGroup_eq_iff (c : Classifier) (client? : Option ClientInfo)
    (properties : Proplist) (groups : GroupDirectory) (group : StreamGroup)
    (properties' : Proplist) :
    c.resolveGroup client? properties groups = (group, properties') ↔
      c.Resolves client? properties groups group properties' := by
  constructor
  case mp =>
    intro h
    have hr := c.resolveGroup_resolves client? properties groups
    rwa [h] at hr
  case mpr => exact Resolves.resolveGroup_eq

end Classifier

end AudioRules

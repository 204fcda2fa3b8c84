import Mathlib.Data.List.Forall2
import AudioRules.Proofs.Engine.Refusal
import AudioRules.Proofs.KeyMap.Entries
import AudioRules.Proofs.Predicate.Substitution
import AudioRules.Proofs.RuleSet.Reload

namespace AudioRules

namespace Variables

@[simp]
theorem resolve_empty : resolve .empty = id := rfl

@[simp]
theorem resolveOpt_empty : resolveOpt .empty = id := by
  funext text
  cases text <;> rfl

@[simp]
theorem inPredicate_empty : inPredicate .empty = id := by
  funext s
  obtain ⟨target, method, arg⟩ := s
  cases target <;> simp [inPredicate]

@[simp]
theorem inModule_empty : inModule .empty = id := by
  funext m
  simp [inModule]

@[simp]
theorem inDevice_empty : inDevice .empty = id := by
  funext d
  simp [inDevice]

@[simp]
theorem inCard_empty : inCard .empty = id := by
  funext d
  simp [inCard]

@[simp]
theorem inStream_empty : inStream .empty = id := by
  funext d
  simp [inStream]

-- Entries of a document

def inPortEntry (vars : Variables) (p : PortEntry) : PortEntry :=
  ⟨vars.replace p.port, vars.inText p.predicate⟩

def inDeviceEntry (vars : Variables) (e : DeviceEntry) : DeviceEntry :=
  { e with
    label := vars.replace e.label
    predicate := vars.inText e.predicate
    ports := e.ports.map vars.inPortEntry
    module? := e.module?.map fun m => ⟨vars.replace m.name, m.args.map vars.replace⟩
    flags := e.flags.map vars.replace }

def inSlotEntry (vars : Variables) (s : CardSlotEntry) : CardSlotEntry where
  predicate := vars.inText s.predicate
  profile := s.profile.map vars.replace
  flags := s.flags.map vars.replace

def inCardEntry (vars : Variables) (e : CardEntry) : CardEntry where
  label := vars.replace e.label
  slots := e.slots.map vars.inSlotEntry

def inStreamEntry (vars : Variables) (e : StreamEntry) : StreamEntry :=
  { e with
    predicate := e.predicate.map vars.inText
    client := e.client.map vars.replace
    sink := e.sink.map vars.replace
    exe := e.exe.map vars.replace
    group := vars.replace e.group
    flags := e.flags.map vars.replace
    properties := e.properties.map vars.replace }

end Variables

def DeviceEntry.predicates (e : DeviceEntry) : List String :=
  e.predicate :: e.ports.map (·.predicate)

def CardEntry.predicates (e : CardEntry) : List String := e.slots.map (·.predicate)

def StreamEntry.predicates (e : StreamEntry) : List String := e.predicate.toList

def PortEntry.toDef (p : PortEntry) : Except MatchError Device.PortDef := do
  return ⟨p.port, ← PredicateSpec.parse p.predicate⟩

def CardSlotEntry.toDef (vars : Variables) (s : CardSlotEntry) :
    Except MatchError Card.SlotDef := do
  return {
    predicate := ← PredicateSpec.parse s.predicate
    profile := s.profile
    flags := .ofNamesIn vars CardFlag.names s.flags }

variable {vars : Variables}

theorem FlagSet.ofNamesIn_empty (vars : Variables) (known : Names) (names : List String) :
    ofNamesIn .empty known (names.map vars.resolve) = ofNamesIn vars known names := by
  simp [ofNamesIn]

theorem PortEntry.toDef_inPortEntry {p : PortEntry} (h : vars.KeyFits p.predicate) :
    (vars.inPortEntry p).toDef =
      p.toDef.map fun p => ⟨vars.resolve p.port, vars.inPredicate p.predicate⟩ := by
  simp only [toDef, Variables.inPortEntry, vars.replace_eq_resolve, Variables.parse_inText h]
  cases PredicateSpec.parse p.predicate <;> rfl

theorem DeviceEntry.toDef_eq (vars : Variables) (e : DeviceEntry) : e.toDef vars = (do
    let predicate ← PredicateSpec.parse e.predicate
    let ports ← e.ports.mapM PortEntry.toDef
    return {
      label := e.label
      predicate
      ports
      module? := e.module?
      flags := .ofNamesIn vars DeviceFlag.names e.flags
      delay := e.delay }) := rfl

theorem DeviceEntry.toDef_inDeviceEntry {e : DeviceEntry}
    (h : ∀ text ∈ e.predicates, vars.KeyFits text) :
    (vars.inDeviceEntry e).toDef .empty = (e.toDef vars).map vars.inDevice := by
  have ⟨hp, hs⟩ := List.forall_mem_cons.1 h
  have hports := Except.mapM_map_of_forall fun p (hm : p ∈ e.ports) =>
    PortEntry.toDef_inPortEntry (hs _ (List.mem_map_of_mem hm))
  simp only [toDef_eq, Variables.inDeviceEntry, vars.replace_eq_resolve, Variables.parse_inText hp,
    hports, FlagSet.ofNamesIn_empty]
  cases PredicateSpec.parse e.predicate with
  | error e     => rfl
  | ok predicate => cases e.ports.mapM PortEntry.toDef <;> rfl

theorem CardSlotEntry.toDef_inSlotEntry {s : CardSlotEntry} (h : vars.KeyFits s.predicate) :
    (vars.inSlotEntry s).toDef .empty = (s.toDef vars).map fun s => { s with
      predicate := vars.inPredicate s.predicate
      profile := vars.resolveOpt s.profile } := by
  simp only [toDef, Variables.inSlotEntry, vars.replace_eq_resolve, Variables.parse_inText h,
    FlagSet.ofNamesIn_empty]
  cases PredicateSpec.parse s.predicate <;> rfl

theorem CardEntry.toDef_eq (vars : Variables) (e : CardEntry) : e.toDef vars = (do
    let slots ← e.slots.mapM (CardSlotEntry.toDef vars)
    return ⟨e.label, slots⟩) := rfl

theorem CardEntry.toDef_inCardEntry {e : CardEntry}
    (h : ∀ text ∈ e.predicates, vars.KeyFits text) :
    (vars.inCardEntry e).toDef .empty = (e.toDef vars).map vars.inCard := by
  have hslots := Except.mapM_map_of_forall fun s (hm : s ∈ e.slots) =>
    CardSlotEntry.toDef_inSlotEntry (h _ (List.mem_map_of_mem hm))
  simp only [toDef_eq, Variables.inCardEntry, vars.replace_eq_resolve, hslots]
  cases e.slots.mapM (CardSlotEntry.toDef vars) <;> rfl

theorem StreamEntry.toDef_inStreamEntry {e : StreamEntry}
    (h : ∀ text ∈ e.predicates, vars.KeyFits text) :
    (vars.inStreamEntry e).toDef .empty = (e.toDef vars).map vars.inStream := by
  simp only [toDef, Variables.inStreamEntry, vars.replace_eq_resolve, FlagSet.ofNamesIn_empty,
    Variables.parseOpt_inText fun text ht => h text (Option.mem_toList.2 ht)]
  cases PredicateSpec.parseOpt e.predicate <;> rfl

-- What an application id asks for is taken as it is written.
def Entry.predicates : Entry → List String
  | device _ e => e.predicates
  | card e     => e.predicates
  | stream e   => e.predicates
  | appId _    => []

def Variables.inEntry (vars : Variables) : Entry → Entry
  | .device d e => .device d (vars.inDeviceEntry e)
  | .card e     => .card (vars.inCardEntry e)
  | .stream e   => .stream (vars.inStreamEntry e)
  | .appId e    => .appId e

namespace Entry

theorem part_inEntry (vars : Variables) (e : Entry) : (vars.inEntry e).part = e.part := by
  cases e <;> rfl

theorem item_inEntry {e : Entry} (h : ∀ text ∈ e.predicates, vars.KeyFits text) :
    (vars.inEntry e).item .empty = e.item vars := by
  cases e
  case device d e =>
    simp only [Variables.inEntry, item, DeviceEntry.toDef_inDeviceEntry h, Variables.inDevice_empty]
    cases e.toDef vars <;> rfl
  case card e =>
    simp only [Variables.inEntry, item, CardEntry.toDef_inCardEntry h, Variables.inCard_empty]
    cases e.toDef vars <;> rfl
  case stream e =>
    simp only [Variables.inEntry, item, StreamEntry.toDef_inStreamEntry h, Variables.inStream_empty]
    cases e.toDef vars <;> rfl
  case appId => rfl

theorem items_inEntry {es : List Entry} (h : ∀ e ∈ es, ∀ text ∈ e.predicates, vars.KeyFits text) :
    items .empty (es.map vars.inEntry) = items vars es := by
  rw [items, List.filterMap_map]
  exact List.filterMap_congr fun e he => congrArg Except.toOption (item_inEntry (h e he))

end Entry

-- The same is said of entries in the same sections.
theorem Verdict.report_congr {vs vs' : List Verdict}
    (h : List.Forall₂ (fun v v' => v'.error? = v.error? ∧ v'.entry.part = v.entry.part) vs vs') :
    (report vs').applied = (report vs).applied ∧
      (report vs').rejected.map (fun r => (r.part, r.error)) =
        (report vs).rejected.map fun r => (r.part, r.error) := by
  induction h with
  | nil => exact ⟨rfl, rfl⟩
  | @cons v v' vs vs' hv _ hi =>
    have ⟨he, hp⟩ := hv
    simp only [report, accepted, rejections, rejection?, List.length_map] at hi ⊢
    cases hve : v.error? <;> simp [he, hve, hp, hi.1, hi.2]

namespace Item

theorem put_withVars (i : Item) (c : Classifier) (vars : Variables) :
    i.put { c with vars } = { i.put c with vars } := by
  cases i
  case device d _ _ => cases d <;> rfl
  all_goals rfl

theorem putAll_withVars (is : List Item) (c : Classifier) (vars : Variables) :
    writes.putAll is { c with vars } = { writes.putAll is c with vars } := by
  induction is generalizing c with
  | nil          => rfl
  | cons i is hi =>
    change writes.putAll is (i.put { c with vars }) = { writes.putAll is (i.put c) with vars }
    rw [put_withVars, hi]

end Item

namespace RuleSet

-- The document with every variable replaced, and without variables.
def substituted (r : RuleSet) : RuleSet :=
  { r with
    vars := .empty
    sinks := r.sinks.map (Variables.inDeviceEntry r.vars)
    sources := r.sources.map (Variables.inDeviceEntry r.vars)
    cards := r.cards.map (Variables.inCardEntry r.vars)
    streams := r.streams.map (Variables.inStreamEntry r.vars) }

theorem entries_substituted (r : RuleSet) :
    r.substituted.entries = r.entries.map (Variables.inEntry r.vars) := by
  simp [entries, substituted, Function.comp_def, Variables.inEntry]

theorem declare_fresh (r : RuleSet) (config : EngineConfig) :
    r.declare { config } = { config, vars := r.vars } := by
  rw [declare_eq, KeyMap.empty_merge]

theorem apply_fresh (r : RuleSet) (config : EngineConfig) : r.apply { config } =
    ({ Item.writes.putAll (Entry.items r.vars r.entries) { config } with vars := r.vars },
      Verdict.report (r.entries.map (Entry.verdictIn r.vars))) := by
  have hc := Classifier.compiled_of_no_rules config .empty {}
  rw [apply_eq hc, declare_fresh, ← Item.putAll_withVars]

-- The document with the variables replaced comes to the same, but for the variables, and of its
-- entries the same are refused for the same reasons.
theorem apply_substituted (config : EngineConfig) (r : RuleSet)
    (h : ∀ e ∈ r.entries, ∀ text ∈ e.predicates, Variables.KeyFits r.vars text) :
    let (c, report) := r.apply { config }
    let (c', report') := r.substituted.apply { config }
    c' = { c with vars := .empty } ∧ report'.applied = report.applied ∧
      report'.rejected.map (fun r => (r.part, r.error)) =
        report.rejected.map fun r => (r.part, r.error) := by
  have hi :
      Entry.items r.substituted.vars r.substituted.entries = Entry.items r.vars r.entries := by
    rw [entries_substituted]
    exact Entry.items_inEntry h
  rw [apply_fresh, apply_fresh, hi]
  refine ⟨rfl, Verdict.report_congr ?_⟩
  rw [entries_substituted, List.map_map, List.forall₂_map_left_iff, List.forall₂_map_right_iff,
    List.forall₂_same]
  intro e he
  refine ⟨?_, Entry.part_inEntry r.vars e⟩
  simp only [Function.comp_apply, Entry.verdictIn]
  have hv : (Variables.inEntry r.vars e).item r.substituted.vars = e.item r.vars :=
    Entry.item_inEntry (h e he)
  rw [hv]

-- One variable stands for the name of another.
def chained : RuleSet where
  vars := .ofList [("a", "b"), ("b", "c")]
  sinks := [{ label := "a", predicate := "b@equals:a", module? := some ⟨"a", some "b"⟩ }]

theorem apply_substituted_of_chained :
    let (c, _) := chained.apply {}
    (∀ e ∈ chained.entries, ∀ text ∈ e.predicates, Variables.KeyFits chained.vars text) ∧
      (chained.substituted.apply {}).1 = { c with vars := .empty } ∧
      (c.sinks.get? "b").map (·.predicate) = some ⟨.sink, .property "c", .equals "b"⟩ ∧
      (c.sinks.get? "b").bind (·.data.module?) = some ⟨"b", some "c"⟩ := by
  have h : ∀ e ∈ chained.entries, ∀ text ∈ e.predicates, Variables.KeyFits chained.vars text := by
    have hp : PredicateSpec.parse "b@equals:a" = .ok ⟨.property "b", .equals, some "a"⟩ := rfl
    have hv : chained.vars.get? "b" = some "c" := by decide
    have hf : Variables.KeyFits chained.vars "b@equals:a" := by
      intro s key value hs ht hc
      cases hp.symm.trans hs
      cases ht
      cases hv.symm.trans hc
      decide
    simpa [entries, chained, Entry.predicates, DeviceEntry.predicates] using hf
  exact ⟨h, (apply_substituted {} chained h).1, by decide, by decide⟩

end RuleSet

end AudioRules

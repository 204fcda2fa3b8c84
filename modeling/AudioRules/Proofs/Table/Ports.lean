import Mathlib.Data.List.Find
import AudioRules.Proofs.Table.Rules

namespace AudioRules

theorem Predicate.BuiltFor.acceptsKind_eq {p : Predicate} {k : ObjectKind} (h : p.BuiltFor k)
    (o : HostObject) : p.acceptsKind o.kind o = (o.kind == k && p.accepts o) := by
  rw [acceptsKind, h.kind, beq_self_eq_true, Bool.and_true, BEq.comm]

namespace Device

-- The first port in the order of the rule whose predicate matches.
def Data.FirstPort (data : Data) (o : HostObject) (port : Port) : Prop :=
  ∃ before after, data.ports = before ++ port :: after ∧ port.predicate.accepts o ∧
    ∀ p ∈ before, ¬p.predicate.accepts o

variable {rule : Rule} {kind : ObjectKind} {o : HostObject} {port : Port}

namespace Rule.BuiltFor

theorem findPort?_of_kind (h : rule.BuiltFor kind) (hk : o.kind = kind) :
    rule.data.findPort? o = rule.data.ports.find? (·.predicate.accepts o) := by
  refine List.find?_congr fun p hp => ?_
  have ⟨_, hb⟩ := h.ports p hp
  rw [hb.acceptsKind_eq, hk, beq_self_eq_true, Bool.true_and]

theorem findPort?_of_other_kind (h : rule.BuiltFor kind) (hk : o.kind ≠ kind) :
    rule.data.findPort? o = none := by
  refine List.find?_eq_none.2 fun p hp => ?_
  have ⟨_, hb⟩ := h.ports p hp
  simp [hb.acceptsKind_eq, hk]

theorem findPort?_eq_some_iff (h : rule.BuiltFor kind) :
    rule.data.findPort? o = some port ↔ o.kind = kind ∧ rule.data.FirstPort o port := by
  by_cases hk : o.kind = kind
  case pos =>
    rw [h.findPort?_of_kind hk, List.find?_eq_some_iff_append]
    simp [Data.FirstPort, hk, and_left_comm]
  case neg => simp [h.findPort?_of_other_kind hk, hk]

theorem findPort?_isSome_iff (h : rule.BuiltFor kind) : (rule.data.findPort? o).isSome ↔
    o.kind = kind ∧ ∃ port ∈ rule.data.ports, port.predicate.accepts o := by
  by_cases hk : o.kind = kind
  case pos => simp [h.findPort?_of_kind hk, hk]
  case neg => simp [h.findPort?_of_other_kind hk, hk]

end Rule.BuiltFor

-- The ports of a rule are those of its definition, in their order.
theorem RuleDef.ports_of_build {d : RuleDef} (h : d.build kind = .ok rule) :
    List.Forall₂ (fun p port => p.port = port.name ∧
      Predicate.compile kind p.predicate = .ok port.predicate) d.ports rule.data.ports := by
  have ⟨_, _, hc⟩ := build_iff.1 h
  exact hc.ports.imp fun _ _ hp => ⟨hp.name.symm, hp.predicate⟩

end Device

namespace DeviceTable

variable {d : Direction} {t : DeviceTable d} {o : HostObject} {label : String} {rule : Device.Rule}
  {data : Device.Data} {calls : List (TableCall Device.RuleDef)}

theorem portTypeof?_eq_some_iff : t.portTypeof? o label = some data ↔
    ∃ rule, (label, rule) ∈ t.rules.entries ∧ (rule.data.findPort? o).isSome ∧
      rule.data = data := by
  simp only [portTypeof?, get?, RuleTable.mem_entries_iff, Option.filter_eq_some_iff,
    Option.map_eq_some_iff]
  constructor
  case mp =>
    rintro ⟨⟨rule, hr, rfl⟩, hp⟩
    exact ⟨rule, hr, hp, rfl⟩
  case mpr =>
    rintro ⟨rule, hr, hp, rfl⟩
    exact ⟨⟨rule, hr, rfl⟩, hp⟩

-- A later rule under the label would not be asked, but there is none.
theorem portTypeof?_eq_find? (t : DeviceTable d) (o : HostObject) (label : String) :
    t.portTypeof? o label = (t.rules.entries.find? fun (l, r) =>
      l == label && (r.data.findPort? o).isSome).map (·.2.data) := by
  rw [portTypeof?, get?, Option.filter_map, RuleTable.filter_get?_eq_find?, Option.map_map]
  rfl

theorem mem_calls_of_mem_run (h : (label, rule) ∈ ((kind d).run calls).rules.entries) :
    ∃ definition, TableCall.add definition ∈ calls ∧ definition.label = label ∧
      definition.build d.objectKind = .ok rule := by
  have hg := TableKind.mem_entries_iff (K := kind d).1 h
  obtain ⟨before, definition, after, rfl, hl, hb, _⟩ := ((kind d).get?_run_iff ..).1 hg
  exact ⟨definition, by simp, hl, hb⟩

theorem builtFor_of_mem_run (h : (label, rule) ∈ ((kind d).run calls).rules.entries) :
    rule.BuiltFor d.objectKind := by
  have ⟨_, _, _, hb⟩ := mem_calls_of_mem_run h
  exact Device.RuleDef.builtFor_of_build hb

-- For every table that calls have left, and every object:
-- 1. a type has a port for the object if and only if the object is of the kind of the table and
--    the predicate of some port of the rule matches; what is found are the data of that rule
-- 2. the port that is found in them is the first one whose predicate matches
-- 3. no rule has a port for objects of another kind
-- 4. the ports of a rule are those of the definition that it was built from, in their order
-- 5. a type is asked for among all rules under its label, of which there is one at most
theorem port_lookup_exact (calls : List (TableCall Device.RuleDef)) (o : HostObject) :
    let t := (kind d).run calls
    (∀ label data, t.portTypeof? o label = some data ↔ o.kind = d.objectKind ∧
      ∃ rule, (label, rule) ∈ t.rules.entries ∧ rule.data = data ∧
        ∃ port ∈ data.ports, port.predicate.accepts o) ∧
    (∀ label data, t.portTypeof? o label = some data →
      ∃ port, data.findPort? o = some port ∧ data.FirstPort o port) ∧
    (o.kind ≠ d.objectKind → ∀ entry ∈ t.rules.entries, entry.2.data.findPort? o = none) ∧
    (∀ label rule, (label, rule) ∈ t.rules.entries → ∃ definition,
      TableCall.add definition ∈ calls ∧ definition.label = label ∧
        List.Forall₂ (fun p port => p.port = port.name ∧
          Predicate.compile d.objectKind p.predicate = .ok port.predicate)
          definition.ports rule.data.ports) ∧
    ∀ label, t.portTypeof? o label = (t.rules.entries.find? fun (l, r) =>
      l == label && (r.data.findPort? o).isSome).map (·.2.data) := by
  intro t
  refine ⟨fun label data => ?_, fun label data hd => ?_, fun hk entry hm => ?_,
    fun label rule hm => ?_, t.portTypeof?_eq_find? o⟩
  · rw [portTypeof?_eq_some_iff]
    constructor
    case mp =>
      rintro ⟨rule, hm, hp, rfl⟩
      have ⟨hk, hp⟩ := (builtFor_of_mem_run hm).findPort?_isSome_iff.1 hp
      exact ⟨hk, rule, hm, rfl, hp⟩
    case mpr =>
      rintro ⟨hk, rule, hm, rfl, hp⟩
      exact ⟨rule, hm, (builtFor_of_mem_run hm).findPort?_isSome_iff.2 ⟨hk, hp⟩, rfl⟩
  · obtain ⟨rule, hm, hp, rfl⟩ := portTypeof?_eq_some_iff.1 hd
    have ⟨port, hf⟩ := Option.isSome_iff_exists.1 hp
    exact ⟨port, hf, ((builtFor_of_mem_run hm).findPort?_eq_some_iff.1 hf).2⟩
  · exact (builtFor_of_mem_run hm).findPort?_of_other_kind hk
  · have ⟨definition, hc, hl, hb⟩ := mem_calls_of_mem_run hm
    exact ⟨definition, hc, hl, Device.RuleDef.ports_of_build hb⟩

end DeviceTable

end AudioRules

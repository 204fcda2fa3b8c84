import Mathlib.Logic.ExistsUnique
import AudioRules.Device
import AudioRules.Proofs.RuleTable

namespace AudioRules

namespace FlagSet

theorem agrees_iff {flags mask value : FlagSet} :
    flags.agrees mask value ↔ flags &&& mask = value := by
  simp [agrees]

-- What is under a mask has no bit outside of it.
theorem not_agrees_of_outside {mask value : FlagSet} (h : value &&& ~~~mask ≠ 0)
    (flags : FlagSet) : ¬flags.agrees mask value := by
  intro ha
  refine h ?_
  rw [← agrees_iff.1 ha, UInt32.and_assoc, UInt32.and_not_self, UInt32.and_zero]

end FlagSet

namespace DeviceTable

variable {d : Direction} {t : DeviceTable d} {o : HostObject} {label : String} {data : Device.Data}
  {mask value : FlagSet}

theorem typeof?_eq_some_iff : t.typeof? o label = some data ↔
    ∃ rule, (label, rule) ∈ t.rules.entries ∧ rule.predicate.accepts o ∧ rule.data = data := by
  simp [typeof?, get?, RuleTable.mem_entries_iff, and_assoc]

-- A later rule under the label would not be asked, but there is none.
theorem typeof?_eq_find? (t : DeviceTable d) (o : HostObject) (label : String) :
    t.typeof? o label =
      (t.rules.entries.find? fun (l, r) => l == label && r.predicate.accepts o).map (·.2.data) := by
  rw [typeof?, get?, RuleTable.filter_get?_eq_find?, Option.map_map]
  rfl

theorem classify_sublist (t : DeviceTable d) (o : HostObject) (mask value : FlagSet) :
    (t.classify o mask value).Sublist t.types :=
  List.filter_sublist.map _

theorem classify_nodup (t : DeviceTable d) (o : HostObject) (mask value : FlagSet) :
    (t.classify o mask value).Nodup :=
  t.rules.distinct.sublist (t.classify_sublist o mask value)

theorem mem_classify_iff : label ∈ t.classify o mask value ↔
    ∃ data, t.typeof? o label = some data ∧ data.flags.agrees mask value := by
  simp only [classify, List.mem_map, List.mem_filter, Bool.and_eq_true, typeof?_eq_some_iff]
  constructor
  case mp =>
    rintro ⟨⟨_, rule⟩, ⟨hm, ha, hf⟩, rfl⟩
    exact ⟨rule.data, ⟨rule, hm, ha, rfl⟩, hf⟩
  case mpr =>
    rintro ⟨_, ⟨rule, hm, ha, rfl⟩, hf⟩
    exact ⟨(label, rule), ⟨hm, ha, hf⟩, rfl⟩

-- For every table and object:
-- 1. the types come in the order of the rules, and none comes twice
-- 2. they are those under which the first rule that matches has flags as asked for
-- 3. for each mask, a type of the object comes with one value
-- 4. no type comes with a value that is not under the mask
theorem classify_agrees_with_typeof (t : DeviceTable d) (o : HostObject) :
    (∀ mask value, (t.classify o mask value).Sublist t.types ∧
      (t.classify o mask value).Nodup ∧
      ∀ label, label ∈ t.classify o mask value ↔
        ∃ data, t.typeof? o label = some data ∧ data.flags &&& mask = value) ∧
    (∀ label, t.typeof? o label =
      (t.rules.entries.find? fun (l, r) => l == label && r.predicate.accepts o).map (·.2.data)) ∧
    (∀ mask, ∀ label ∈ t.classify o .none .none, ∃! value, label ∈ t.classify o mask value) ∧
    ∀ mask value, value &&& ~~~mask ≠ 0 → t.classify o mask value = [] := by
  refine ⟨fun mask value => ⟨t.classify_sublist o mask value, t.classify_nodup o mask value,
    fun label => ?_⟩, t.typeof?_eq_find? o, fun mask label hm => ?_, fun mask value ho => ?_⟩
  · simp only [mem_classify_iff, FlagSet.agrees_iff]
  · have ⟨data, hd, _⟩ := mem_classify_iff.1 hm
    refine ⟨data.flags &&& mask, mem_classify_iff.2 ⟨data, hd, FlagSet.agrees_iff.2 rfl⟩, ?_⟩
    intro value hv
    have ⟨data', hd', hf⟩ := mem_classify_iff.1 hv
    obtain rfl : data' = data := Option.some.inj (hd'.symm.trans hd)
    exact (FlagSet.agrees_iff.1 hf).symm
  · refine List.eq_nil_iff_forall_not_mem.2 fun label hm => ?_
    have ⟨data, _, hf⟩ := mem_classify_iff.1 hm
    exact FlagSet.not_agrees_of_outside ho data.flags hf

end DeviceTable

end AudioRules

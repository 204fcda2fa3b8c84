import AudioRules.Proofs.Table.Classification
import AudioRules.Proofs.Table.Rules

theorem List.count_flatMap_replicate [DecidableEq α] {n : α → Nat} {a : α} {as : List α}
    (h : as.Nodup) :
    (as.flatMap fun b => List.replicate (n b) b).count a = if a ∈ as then n a else 0 := by
  induction as with
  | nil => rfl
  | cons b as hi =>
    rw [List.nodup_cons] at h
    rw [List.flatMap_cons, List.count_append, List.count_replicate, hi h.2]
    by_cases ha : b = a
    case pos => simp [← ha, h.1]
    case neg => simp [ha, Ne.symm ha]

namespace AudioRules

namespace ProfileCatalog

variable {c₁ c₂ : ProfileCatalog} {profile : String} {again : Bool}

-- Profiles that are reported as unavailable are still offered, but not when classifying again.
def Offers (c : ProfileCatalog) (profile : String) (again : Bool) : Prop :=
  ∃ a, c.availability? profile = some a ∧ (again → a ≠ .no)

-- The second catalog has every profile of the first, and reports none of them as unavailable that
-- the first does not.
structure Within (c₁ c₂ : ProfileCatalog) : Prop where
  offered   : ∀ p a, c₁.availability? p = some a → ∃ b, c₂.availability? p = some b
  available : ∀ p a, c₁.availability? p = some a → a ≠ .no →
    ∃ b, c₂.availability? p = some b ∧ b ≠ .no

theorem Within.offers (h : Within c₁ c₂) (ho : c₁.Offers profile again) :
    c₂.Offers profile again := by
  have ⟨a, ha, hn⟩ := ho
  cases again
  case false =>
    have ⟨b, hb⟩ := h.offered profile a ha
    exact ⟨b, hb, nofun⟩
  case true =>
    have ⟨b, hb, hbn⟩ := h.available profile a ha (hn rfl)
    exact ⟨b, hb, fun _ => hbn⟩

theorem Offers.of_again {c : ProfileCatalog} (h : c.Offers profile true) :
    c.Offers profile false := by
  have ⟨a, ha, _⟩ := h
  exact ⟨a, ha, nofun⟩

end ProfileCatalog

namespace Card.Slot

variable {s : Slot} {o : HostObject} {c c₁ c₂ : ProfileCatalog} {mask value : FlagSet}
  {again : Bool}

-- A card can always stay in the profile in which it is.
def Runnable (s : Slot) (c : ProfileCatalog) (again : Bool) : Prop :=
  ∀ p, s.profile = some p → c.Offers p again

structure Counts (s : Slot) (o : HostObject) (c : ProfileCatalog) (mask value : FlagSet)
    (again : Bool) : Prop where
  accepts  : s.predicate.accepts o
  runnable : s.Runnable c again
  flags    : s.flags &&& mask = value

theorem supports_iff : s.supports c again ↔ s.Runnable c again := by
  unfold supports Runnable ProfileCatalog.Offers
  cases s.profile with
  | none => simp
  | some p =>
    cases ha : c.availability? p <;> cases again <;> simp [ha]

theorem qualifies_iff : s.qualifies o c mask value again ↔ s.Counts o c mask value again := by
  simp only [qualifies, Bool.and_eq_true, supports_iff, FlagSet.agrees_iff, and_assoc]
  exact ⟨fun ⟨ha, hr, hf⟩ => ⟨ha, hr, hf⟩, fun ⟨ha, hr, hf⟩ => ⟨ha, hr, hf⟩⟩

instance : Decidable (s.Counts o c mask value again) :=
  decidable_of_iff _ qualifies_iff

-- Fewer profiles cannot make a slot count.
theorem Counts.of_within (h : s.Counts o c₁ mask value again) (hw : c₁.Within c₂) :
    s.Counts o c₂ mask value again where
  accepts  := h.accepts
  runnable := fun p hp => hw.offers (h.runnable p hp)
  flags    := h.flags

theorem Counts.of_again (h : s.Counts o c mask value true) : s.Counts o c mask value false where
  accepts  := h.accepts
  runnable := fun p hp => (h.runnable p hp).of_again
  flags    := h.flags

-- A slot that counts stays one when classifying again, unless the card has its profile but reports
-- it as unavailable.
theorem counts_again_of_counts_iff :
    (s.Counts o c mask value false → s.Counts o c mask value true) ↔
      (s.predicate.accepts o → s.flags &&& mask = value →
        ∀ p, s.profile = some p → c.availability? p ≠ some .no) := by
  constructor
  case mp =>
    intro h ha hf p hp hn
    have hr : s.Runnable c false := by
      intro p' hp'
      obtain rfl : p = p' := Option.some.inj (hp.symm.trans hp')
      exact ⟨.no, hn, nofun⟩
    have ⟨a, hc, ho⟩ := (h ⟨ha, hr, hf⟩).runnable p hp
    exact ho rfl (Option.some.inj (hc.symm.trans hn))
  case mpr =>
    intro hn h
    refine ⟨h.accepts, fun p hp => ?_, h.flags⟩
    have ⟨a, hc, _⟩ := h.runnable p hp
    exact ⟨a, hc, fun _ he => hn h.accepts h.flags p hp (he ▸ hc)⟩

end Card.Slot

namespace RuleTable

-- Labels are distinct, so no other entry comes with the one that is looked up.
theorem filter_label_eq (t : RuleTable α) (label : String) :
    t.entries.filter (·.1 == label) = ((t.get? label).map fun rule => (label, rule)).toList := by
  obtain ⟨es, hd⟩ := t
  simp only [get?]
  induction es with
  | nil => rfl
  | cons e es hi =>
    rw [List.map_cons, List.nodup_cons] at hd
    rw [List.filter_cons, KeyMap.lookup_cons_eq]
    by_cases he : label = e.1
    case pos =>
      have hn : es.filter (·.1 == label) = [] := by
        refine List.filter_eq_nil_iff.2 fun e' hm => ?_
        have hl : e'.1 ≠ e.1 := fun hl => hd.1 (hl ▸ List.mem_map_of_mem hm)
        simpa [he] using hl
      simp [he ▸ hn, he]
    case neg => simp [Ne.symm he, he, hi hd.2]

end RuleTable

namespace CardTable

variable {t : CardTable} {o : HostObject} {c : ProfileCatalog} {mask value : FlagSet}
  {again : Bool} {label : String} {rule : Card.Rule} {slot : Card.Slot} {priority : Nat}

-- The slots of all rules in their order, each with the type of its rule.
def slots (t : CardTable) : List (String × Card.Slot) :=
  t.rules.entries.flatMap fun (label, rule) => rule.map fun s => (label, s)

theorem mem_slots_iff :
    (label, slot) ∈ t.slots ↔ ∃ rule, t.get? label = some rule ∧ slot ∈ rule := by
  simp [slots, get?, ← RuleTable.mem_entries_iff]

theorem classify_eq (t : CardTable) (o : HostObject) (c : ProfileCatalog) (mask value : FlagSet)
    (again : Bool) : t.classify o c mask value again =
      (t.slots.filter fun x => x.2.Counts o c mask value again).map Prod.fst := by
  simp [classify, slots, List.filter_flatMap, List.map_flatMap, List.filter_map,
    Function.comp_def, ← Card.Slot.qualifies_iff]

-- How many slots of a type count; none does if the type has no rule.
def counting (t : CardTable) (o : HostObject) (c : ProfileCatalog) (mask value : FlagSet)
    (again : Bool) (label : String) : Nat :=
  ((t.get? label).getD []).countP fun s => s.Counts o c mask value again

theorem classify_eq_flatMap (t : CardTable) (o : HostObject) (c : ProfileCatalog)
    (mask value : FlagSet) (again : Bool) : t.classify o c mask value again =
      t.types.flatMap fun label =>
        List.replicate (t.counting o c mask value again label) label := by
  simp only [classify, types, RuleTable.labels, List.flatMap_map, List.map_const',
    ← List.countP_eq_length_filter]
  refine List.flatMap_congr fun (label, rule) hm => ?_
  have hg : t.get? label = some rule := RuleTable.mem_entries_iff.1 hm
  simp [counting, hg, ← Card.Slot.qualifies_iff]

theorem mem_types_iff : label ∈ t.types ↔ ∃ rule, t.get? label = some rule := by
  simp [types, RuleTable.labels, get?, ← RuleTable.mem_entries_iff]

theorem count_classify (t : CardTable) (o : HostObject) (c : ProfileCatalog)
    (mask value : FlagSet) (again : Bool) (label : String) :
    (t.classify o c mask value again).count label = t.counting o c mask value again label := by
  rw [classify_eq_flatMap, List.count_flatMap_replicate (show t.types.Nodup from t.rules.distinct)]
  split
  case isTrue => rfl
  case isFalse hl =>
    have hg : t.get? label = none :=
      Option.eq_none_iff_forall_ne_some.2 fun rule hr => hl (mem_types_iff.2 ⟨rule, hr⟩)
    simp [counting, hg]

theorem mem_classify_iff : label ∈ t.classify o c mask value again ↔
    ∃ rule, t.get? label = some rule ∧ ∃ s ∈ rule, s.Counts o c mask value again := by
  rw [← List.count_pos_iff, count_classify, counting, List.countP_pos_iff]
  cases t.get? label <;> simp

theorem typeof?_eq_some_iff : t.typeof? o label = some (slot, priority) ↔
    ∃ rule, t.get? label = some rule ∧ rule[priority]? = some slot ∧ slot.predicate.accepts o ∧
      ∀ i < priority, ∀ s, rule[i]? = some s → ¬s.predicate.accepts o := by
  refine Option.bind_eq_some_iff.trans (exists_congr fun rule => and_congr_right fun _ => ?_)
  simp only [List.find?_eq_some_iff_getElem, List.getElem_zipIdx, Nat.zero_add, Prod.mk.injEq,
    Bool.not_eq_true', List.length_zipIdx, Bool.not_eq_true]
  constructor
  case mp =>
    rintro ⟨ha, i, hi, ⟨rfl, rfl⟩, hn⟩
    refine ⟨List.getElem?_eq_getElem hi, ha, fun j hj s hs => ?_⟩
    have ⟨_, hs⟩ := List.getElem?_eq_some_iff.1 hs
    exact hs ▸ hn j hj
  case mpr =>
    intro ⟨hs, ha, hn⟩
    have ⟨hi, hs⟩ := List.getElem?_eq_some_iff.1 hs
    exact ⟨ha, priority, hi, ⟨hs, rfl⟩, fun j hj => hn j hj _ (List.getElem?_eq_getElem _)⟩

theorem typeof?_isSome_iff : (t.typeof? o label).isSome ↔
    ∃ rule, t.get? label = some rule ∧ ∃ s ∈ rule, s.predicate.accepts o := by
  simp only [typeof?, Option.bind_eq_bind, Option.isSome_bind, Option.any_eq_true,
    List.find?_isSome]
  refine exists_congr fun rule => and_congr_right fun _ => ?_
  constructor
  case mp =>
    intro ⟨x, hx, ha⟩
    exact ⟨x.1, List.fst_mem_of_mem_zipIdx hx, ha⟩
  case mpr =>
    intro ⟨s, hs, ha⟩
    have ⟨i, hi⟩ := List.mem_iff_getElem?.1 hs
    exact ⟨(s, i), List.mk_mem_zipIdx_iff_getElem?.2 hi, ha⟩

-- A further rule under the label would be asked next, but there is none.
theorem typeof?_eq_findSome? (t : CardTable) (o : HostObject) (label : String) :
    t.typeof? o label = (t.rules.entries.filter (·.1 == label)).findSome? fun (_, rule) =>
      rule.zipIdx.find? (·.1.predicate.accepts o) := by
  rw [RuleTable.filter_label_eq]
  change (t.get? label).bind _ = _
  unfold get?
  cases t.rules.get? label <;> simp

-- What is found when the type is asked for comes no later than any slot that counts.
theorem exists_typeof?_of_counts (hr : t.get? label = some rule) {s : Card.Slot} (hs : s ∈ rule)
    (ha : s.predicate.accepts o) : ∃ slot priority, t.typeof? o label = some (slot, priority) ∧
      rule[priority]? = some slot ∧ slot.predicate.accepts o ∧
      ∀ i s, rule[i]? = some s → s.predicate.accepts o → priority ≤ i := by
  have ⟨(slot, priority), hf⟩ :=
    Option.isSome_iff_exists.1 (typeof?_isSome_iff.2 ⟨rule, hr, s, hs, ha⟩)
  have ⟨rule', hr', hp, ha, hn⟩ := typeof?_eq_some_iff.1 hf
  obtain rfl : rule = rule' := Option.some.inj (hr.symm.trans hr')
  exact ⟨slot, priority, hf, hp, ha, fun i s hs ha => Nat.not_lt.1 fun hi => hn i hi s hs ha⟩

theorem built_of_get?_run {calls : List (TableCall Card.RuleDef)}
    (h : (CardTable.kind.run calls).get? label = some rule) : rule.Built := by
  have hm := RuleTable.mem_entries_iff.2 h
  have ⟨_, _, hb⟩ := TableKind.built_of_mem_run (K := CardTable.kind) hm
  exact Card.RuleDef.built_of_build hb

theorem counting_run_le (calls : List (TableCall Card.RuleDef)) (o : HostObject)
    (c : ProfileCatalog) (mask value : FlagSet) (again : Bool) (label : String) :
    (CardTable.kind.run calls).counting o c mask value again label ≤ 2 := by
  unfold counting
  cases hr : (CardTable.kind.run calls).get? label with
  | none => simp
  | some rule =>
    have hl : rule.length ≤ 2 := by
      have := (built_of_get?_run hr).size
      omega
    exact Nat.le_trans List.countP_le_length hl

-- For every table that calls have left, and every card:
-- 1. the types come in the order of the rules, each as often as it has slots that count, and so
--    twice at most
-- 2. a type that comes is found when it is asked for, with a slot that matches the card and comes
--    no later than any that counts
-- 3. without profiles and flags in question, the types are those that are found
-- 4. a type is asked for among all rules under its label, of which there is one at most
theorem classify_counts_slots (calls : List (TableCall Card.RuleDef)) (o : HostObject) :
    let t := CardTable.kind.run calls
    (∀ c mask value again,
      t.classify o c mask value again = t.types.flatMap (fun label =>
        List.replicate (t.counting o c mask value again label) label) ∧
      (∀ label, (t.classify o c mask value again).count label =
        t.counting o c mask value again label) ∧
      (∀ label, (t.classify o c mask value again).count label ≤ 2) ∧
      ∀ label ∈ t.classify o c mask value again, ∃ rule slot priority,
        t.get? label = some rule ∧ t.typeof? o label = some (slot, priority) ∧
          rule[priority]? = some slot ∧ slot.predicate.accepts o ∧
          ∀ i s, rule[i]? = some s → s.Counts o c mask value again → priority ≤ i) ∧
    (∀ c again label, (∀ rule, t.get? label = some rule → ∀ s ∈ rule, s.profile = none) →
      (label ∈ t.classify o c .none .none again ↔ (t.typeof? o label).isSome)) ∧
    ∀ label, t.typeof? o label =
      (t.rules.entries.filter (·.1 == label)).findSome? fun (_, rule) =>
        rule.zipIdx.find? (·.1.predicate.accepts o) := by
  intro t
  refine ⟨fun c mask value again => ⟨t.classify_eq_flatMap ..,
    t.count_classify o c mask value again, fun label => ?_, fun label hm => ?_⟩,
    fun c again label hn => ?_, t.typeof?_eq_findSome? o⟩
  · rw [count_classify]
    exact counting_run_le ..
  · have ⟨rule, hr, s, hs, hc⟩ := mem_classify_iff.1 hm
    have ⟨slot, priority, hf, hp, ha, hl⟩ := exists_typeof?_of_counts hr hs hc.accepts
    exact ⟨rule, slot, priority, hr, hf, hp, ha, fun i s hi hc => hl i s hi hc.accepts⟩
  · rw [mem_classify_iff, typeof?_isSome_iff]
    refine exists_congr fun rule => and_congr_right fun hr => exists_congr fun s =>
      and_congr_right fun hs => ⟨Card.Slot.Counts.accepts, fun ha => ⟨ha, ?_, ?_⟩⟩
    · intro p hp
      cases (hn rule hr s hs).symm.trans hp
    · exact UInt32.and_zero

theorem slots_counting_sublist {c₁ c₂ : ProfileCatalog} {again₁ again₂ : Bool}
    (h : ∀ s : Card.Slot, s.Counts o c₁ mask value again₁ → s.Counts o c₂ mask value again₂) :
    (t.slots.filter fun x => x.2.Counts o c₁ mask value again₁).Sublist
      (t.slots.filter fun x => x.2.Counts o c₂ mask value again₂) := by
  refine List.monotone_filter_right _ fun x hx => ?_
  simpa using h x.2 (by simpa using hx)

-- If labels that have been left out cannot be told, their number still can.
theorem classify_again_eq_iff :
    t.classify o c mask value true = t.classify o c mask value false ↔
      ∀ x ∈ t.slots, x.2.Counts o c mask value false → x.2.Counts o c mask value true := by
  have hs := slots_counting_sublist (t := t) fun s (h : s.Counts o c mask value true) => h.of_again
  rw [classify_eq, classify_eq]
  constructor
  case mp =>
    intro he x hx hc
    have hl := congrArg List.length he
    rw [List.length_map, List.length_map] at hl
    have hm : x ∈ t.slots.filter fun x => x.2.Counts o c mask value true := by
      rw [hs.eq_of_length hl]
      simpa [hx] using hc
    simpa [hx] using hm
  case mpr =>
    intro h
    refine congrArg _ (List.filter_congr fun x hx => decide_eq_decide.2 ⟨?_, h x hx⟩)
    exact Card.Slot.Counts.of_again

-- For every table and card:
-- 1. where more is offered, the same types come and perhaps others in between
-- 2. classifying again leaves types out, and leaves all where they are if no slot that matches
--    names a profile that is reported as unavailable
theorem classify_monotone (t : CardTable) (o : HostObject) (mask value : FlagSet) :
    (∀ c₁ c₂ : ProfileCatalog, c₁.Within c₂ → ∀ again,
      (t.classify o c₁ mask value again).Sublist (t.classify o c₂ mask value again)) ∧
    ∀ c : ProfileCatalog,
      (t.classify o c mask value true).Sublist (t.classify o c mask value false) ∧
      (t.classify o c mask value true = t.classify o c mask value false ↔
        ∀ label rule, t.get? label = some rule → ∀ s ∈ rule, s.predicate.accepts o →
          s.flags &&& mask = value → ∀ p, s.profile = some p → c.availability? p ≠ some .no) := by
  refine ⟨fun c₁ c₂ hw again => ?_, fun c => ⟨?_, classify_again_eq_iff.trans ?_⟩⟩
  · rw [classify_eq, classify_eq]
    exact (slots_counting_sublist fun s h => h.of_within hw).map _
  · rw [classify_eq, classify_eq]
    exact (slots_counting_sublist fun s h => h.of_again).map _
  · simp only [Card.Slot.counts_again_of_counts_iff, Prod.forall, mem_slots_iff]
    exact ⟨fun h label rule hr s hs => h label s ⟨rule, hr, hs⟩,
      fun h label s ⟨rule, hr, hs⟩ => h label rule hr s hs⟩

end CardTable

end AudioRules

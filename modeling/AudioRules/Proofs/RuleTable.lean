import AudioRules.Proofs.KeyMap
import AudioRules.RuleTable

namespace AudioRules.RuleTable

variable {α : Type} {t : RuleTable α} {label : String} {rule : α}

theorem define_of_error {built : Except ε α} (h : (t.define label built).1 = .error e) :
    (t.define label built).2 = t := by
  cases built with
  | ok rule => cases h
  | error e => rfl

@[simp]
theorem contains_iff : t.contains label ↔ label ∈ t.labels :=
  List.contains_iff_mem

theorem lookup_put (label label' : String) (rule : α) (es : List (String × α)) :
    (byLabel.put (label, rule) es).lookup label' =
      if label' = label then some rule else es.lookup label' := by
  induction es with
  | nil => simp [Keyed.put, KeyMap.lookup_cons_eq]
  | cons e es hi =>
    unfold Keyed.put
    split
    case isTrue h =>
      have he : e.1 = label := h
      by_cases hl : label' = label <;> simp [byLabel, KeyMap.lookup_cons_eq, he, hl]
    case isFalse h =>
      have he : e.1 ≠ label := h
      rw [KeyMap.lookup_cons_eq, KeyMap.lookup_cons_eq, hi]
      by_cases hl : label' = label <;> simp [hl, Ne.symm he]

@[simp]
theorem get?_put (t : RuleTable α) (label label' : String) (rule : α) :
    (t.put label rule).get? label' = if label' = label then some rule else t.get? label' :=
  lookup_put ..

@[simp]
theorem get?_erase (t : RuleTable α) (label label' : String) :
    (t.erase label).get? label' = if label' = label then none else t.get? label' :=
  KeyMap.lookup_filter_ne ..

theorem mem_entries_iff : (label, rule) ∈ t.entries ↔ t.get? label = some rule := by
  rw [get?, List.lookup_eq_some_iff]
  constructor
  case mp =>
    intro h
    have ⟨before, after, he⟩ := List.append_of_mem h
    refine ⟨before, after, he, fun e hm => bne_iff_ne.2 fun hl => ?_⟩
    have hd := t.distinct
    rw [he, List.map_append, List.nodup_append] at hd
    exact hd.2.2 e.1 (List.mem_map_of_mem hm) label (by simp) hl.symm
  case mpr =>
    rintro ⟨before, after, he, _⟩
    simp [he]

-- What is under a label is what a search through all entries finds there.
theorem filter_get?_eq_find? (t : RuleTable α) (label : String) (q : α → Bool) :
    (t.get? label).filter q = (t.entries.find? fun (l, r) => l == label && q r).map Prod.snd := by
  cases hf : t.entries.find? fun (l, r) => l == label && q r with
  | none =>
    refine Option.eq_none_iff_forall_ne_some.2 fun rule h => ?_
    have ⟨hg, hq⟩ := Option.filter_eq_some_iff.1 h
    simpa [hq] using List.find?_eq_none.1 hf (label, rule) (mem_entries_iff.2 hg)
  | some entry =>
    have hp := List.find?_some hf
    have hm := List.mem_of_find?_eq_some hf
    simp only [Bool.and_eq_true, beq_iff_eq] at hp
    exact Option.filter_eq_some_iff.2 ⟨mem_entries_iff.1 (hp.1 ▸ hm), hp.2⟩

theorem put_of_new (h : label ∉ t.labels) (rule : α) :
    (t.put label rule).entries = t.entries ++ [(label, rule)] :=
  Keyed.put_of_new (K := byLabel) h

theorem put_of_mem (h : label ∈ t.labels) (rule : α) :
    ∃ before old after, t.entries = before ++ (label, old) :: after ∧
      (t.put label rule).entries = before ++ (label, rule) :: after := by
  have ⟨before, (label', old), after, he, hl, hp⟩ :=
    byLabel.put_of_mem (label, rule) h
  cases show label' = label from hl
  exact ⟨before, old, after, he, hp⟩

theorem erase_of_not_mem (h : label ∉ t.labels) : (t.erase label).entries = t.entries := by
  refine List.filter_eq_self.2 fun e hm => bne_iff_ne.2 fun he => h ?_
  exact he ▸ List.mem_map_of_mem hm

theorem erase_of_mem (h : label ∈ t.labels) :
    ∃ before rule after, t.entries = before ++ (label, rule) :: after ∧
      (t.erase label).entries = before ++ after := by
  obtain ⟨⟨_, rule⟩, hm, rfl⟩ := List.mem_map.1 h
  have ⟨before, after, he⟩ := List.append_of_mem hm
  refine ⟨before, rule, after, he, ?_⟩
  have hd := t.distinct
  simp only [he, List.map_append, List.map_cons, List.nodup_append, List.nodup_cons,
    List.mem_cons, List.mem_map] at hd
  have ⟨_, ⟨ha, _⟩, hb⟩ := hd
  have hb : before.filter (·.1 != _) = before :=
    List.filter_eq_self.2 fun e hm => bne_iff_ne.2 fun hl => hb e.1 ⟨e, hm, rfl⟩ _ (.inl rfl) hl
  have ha : after.filter (·.1 != _) = after :=
    List.filter_eq_self.2 fun e hm => bne_iff_ne.2 fun hl => ha ⟨e, hm, hl⟩
  simp only [erase, he, List.filter_append, List.filter_cons, bne_self_eq_false, hb, ha]
  rfl

end AudioRules.RuleTable

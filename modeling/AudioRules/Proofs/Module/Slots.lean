import AudioRules.Module.Slots

namespace AudioRules.ModuleSlots

variable {σ : Type} {m : ModuleSlots} {d : Direction} {index : ModuleIndex}

theorem unlinked_snd (m : ModuleSlots) (index : ModuleIndex) :
    (m.unlinked index).2 = (m.unlinked index).1.elim m (m.set · none) := by
  unfold unlinked
  split <;> rfl

theorem index?_of_unlinked (h : (m.unlinked index).1 = some d) : m.index? d = some index := by
  unfold unlinked at h
  split at h
  case h_1 hf =>
    cases h
    simpa using List.find?_some hf
  case h_2 => cases h

theorem unlinked_eq_none_iff :
    (m.unlinked index).1 = none ↔ ∀ d, m.index? d ≠ some index := by
  constructor
  case mp =>
    intro h d
    unfold unlinked at h
    split at h
    case h_1 => cases h
    case h_2 hf =>
      have hd : d ∈ Direction.all := by cases d <;> simp [Direction.all]
      simpa using List.find?_eq_none.1 hf d hd
  case mpr =>
    intro h
    refine Option.eq_none_iff_forall_ne_some.2 fun d hd => ?_
    exact h d (index?_of_unlinked hd)

theorem unlinked_preserves (h : (m.unlinked index).1 ≠ some d) :
    (m.unlinked index).2.get d = m.get d := by
  rw [unlinked_snd]
  cases hu : (m.unlinked index).1 with
  | none    => rfl
  | some d' => exact get_set_of_ne fun hd => h (hd ▸ hu)

-- No module is tracked for both directions.
def Distinct (m : ModuleSlots) : Prop :=
  ∀ d d' index, m.index? d = some index → m.index? d' = some index → d = d'

namespace Distinct

theorem unlinked_eq_some_iff (h : m.Distinct) :
    (m.unlinked index).1 = some d ↔ m.index? d = some index := by
  constructor
  case mp  => exact index?_of_unlinked
  case mpr =>
    intro hi
    cases hu : (m.unlinked index).1 with
    | none    => exact absurd hi (unlinked_eq_none_iff.1 hu d)
    | some d' => rw [h d' d index (index?_of_unlinked hu) hi]

theorem index?_unlinked (h : m.Distinct) (d : Direction) :
    (m.unlinked index).2.index? d ≠ some index := by
  by_cases hu : (m.unlinked index).1 = some d
  case pos => simp [unlinked_snd, hu, index?]
  case neg =>
    rw [index?, unlinked_preserves hu]
    exact mt h.unlinked_eq_some_iff.2 hu

theorem unlinked_unlinked (h : m.Distinct) :
    (m.unlinked index).2.unlinked index = (none, (m.unlinked index).2) := by
  have hn : ((m.unlinked index).2.unlinked index).1 = none :=
    unlinked_eq_none_iff.2 h.index?_unlinked
  refine Prod.ext hn ?_
  rw [unlinked_snd (m.unlinked index).2, hn]
  rfl

end Distinct

-- What the reconciliation leaves to the update is to load.
theorem update_reconcile (m : ModuleSlots) (d : Direction) (rule : Device.Rule)
    (host : ModuleHost σ) (s : σ) :
    (m.reconcile d (some rule) host s).2.1.update d rule.data host
        (m.reconcile d (some rule) host s).2.2 =
      m.update d rule.data host s := by
  cases hm : m.get d with
  | none => simp [reconcile, hm]
  | some loaded =>
    by_cases hs : rule.data.module? = some loaded.spec
    case pos => simp [reconcile, hm, hs]
    case neg => simp [reconcile, update, hm, hs]

end AudioRules.ModuleSlots

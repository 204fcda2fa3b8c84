import AudioRules.Proofs.KeyMap
import AudioRules.Proofs.Predicate.Compiled

namespace AudioRules.AppIds

variable {ids : AppIds} {id : String} {spec : Option PredicateSpec} {group : String}

def Compiled (ids : AppIds) : Prop :=
  ∀ e ∈ ids.entries, CompiledOptional e.2.predicate

theorem register_eq (h : ids.Compiled) (id : String) (spec : Option PredicateSpec)
    (group : String) : ids.register id spec group =
      match compile? spec with
      | .ok predicate => (.ok (), ids.insert id { predicate, group })
      | .error e      => (.error e, ids) := by
  unfold register
  split
  case h_2 => rfl
  case h_1 e he =>
    have ⟨he, hs⟩ := Option.filter_eq_some_iff.1 he
    have hc : CompiledOptional e.predicate := h _ (KeyMap.mem_of_get? he)
    rw [(sameOptional_iff hc).1 hs]

theorem register_error? (h : ids.Compiled) (id : String) (spec : Option PredicateSpec)
    (group : String) : (ids.register id spec group).1.error? = (compile? spec).error? := by
  rw [register_eq h]
  cases compile? spec <;> rfl

theorem register_of_error (h : (ids.register id spec group).1 = .error e) :
    (ids.register id spec group).2 = ids := by
  unfold register at h ⊢
  split at h
  case h_1 => cases h
  case h_2 => cases hc : compile? spec <;> simp_all

theorem register_compiled (h : ids.Compiled) (id : String) (spec : Option PredicateSpec)
    (group : String) : (ids.register id spec group).2.Compiled := by
  rw [register_eq h]
  cases hp : compile? spec with
  | error e      => exact h
  | ok predicate =>
    intro e hm
    cases KeyMap.mem_insertEntry hm
    case inl he => exact he ▸ ⟨spec, hp⟩
    case inr hm => exact h e hm

theorem unregister_compiled (h : ids.Compiled) (id : String) : (ids.unregister id).2.Compiled :=
  fun e hm => h e (List.mem_filter.1 hm).1

end AudioRules.AppIds

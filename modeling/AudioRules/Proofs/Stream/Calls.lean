import Mathlib.Data.List.Forall2
import Mathlib.Data.List.Nodup
import AudioRules.Proofs.StateMachine
import AudioRules.Proofs.Stream.FilterSet

namespace AudioRules

inductive StreamCall
  | add (rule : Stream.RuleDef)
  | updateRoute (route : String)

inductive StreamAnswer
  | change (change : RuleChange)
  | refusal (error : RuleError)
  | routed

def StreamAnswer.ofResult : Except RuleError RuleChange → StreamAnswer
  | .ok made => change made
  | .error e => refusal e

open AudioRules.Stream (Rule RuleDef)

namespace StreamRules

def step (s : StreamRules) : StreamCall → StreamAnswer × StreamRules
  | .add d             => (s.add d).map .ofResult id
  | .updateRoute route => (.routed, s.updateRoute route)

def machine : StateMachine StreamCall StreamAnswer StreamRules where
  start := .empty
  step  := step

-- What a call does to the rules, and what it answers:
-- 1. a definition with new filters goes to the end; one with known filters gives its group, flags
--    and overlay to the rule that is there
-- 2. a definition that makes no rule changes nothing
-- 3. a route changes nothing but activities
inductive Effect : List Rule → StreamCall → StreamAnswer → List Rule → Prop
  | added : d.rule? = .ok rule → rule.Says d → rule.filterSet = d.filterSet →
      d.filterSet ∉ rs.map Rule.filterSet →
      Effect rs (.add d) (.change .added) (rs ++ [rule])
  | updated : d.rule? = .ok rule → rule.Says d → r.filterSet = d.filterSet →
      Effect (before ++ r :: after) (.add d) (.change .updated)
        (before ++ { r with group := d.group, flags := d.flags, overlay := rule.overlay } :: after)
  | refused : d.rule? = .error e → Effect rs (.add d) (.refusal e) rs
  | routed : List.Forall₂ (fun r r' => r' = { r with activity := r'.activity }) rs rs' →
      Effect rs (.updateRoute route) .routed rs'

variable {s : StreamRules} {d : RuleDef} {rule : Rule} {rs rs' : List Rule} {call : StreamCall}
  {overlay : Option Proplist}

theorem redefine?_of_new (h : d.filterSet ∉ rs.map Rule.filterSet) :
    redefine? d overlay rs = none := by
  induction rs with
  | nil => rfl
  | cons r rs hi =>
    have ⟨hr, hrs⟩ := not_or.1 (mt List.mem_cons.2 h)
    have hf : ¬r.hasFiltersOf d := fun hf => hr (Rule.hasFiltersOf_iff_filterSet.1 hf).symm
    simp [redefine?, hf, hi hrs]

theorem redefine?_of_mem (overlay : Option Proplist) (h : d.filterSet ∈ rs.map Rule.filterSet) :
    ∃ before r after, rs = before ++ r :: after ∧ r.filterSet = d.filterSet ∧
      redefine? d overlay rs = some (before ++ r.redefine d overlay :: after) := by
  induction rs with
  | nil => cases h
  | cons r rs hi =>
    by_cases hr : r.filterSet = d.filterSet
    case pos =>
      have hf : r.hasFiltersOf d := Rule.hasFiltersOf_iff_filterSet.2 hr
      exact ⟨[], r, rs, rfl, hr, by simp [redefine?, hf]⟩
    case neg =>
      have hf : ¬r.hasFiltersOf d := mt Rule.hasFiltersOf_iff_filterSet.1 hr
      have ⟨before, r', after, hrs, hr', hd⟩ :=
        hi ((List.mem_cons.1 h).resolve_left (Ne.symm hr))
      exact ⟨r :: before, r', after, by rw [hrs]; rfl, hr', by simp [redefine?, hf, hd]⟩

theorem effect_step (h : s.Compiled) (call : StreamCall) :
    Effect s.rules call (s.step call).1 (s.step call).2.rules := by
  cases call
  case add d =>
    cases hd : d.rule? with
    | error e =>
      rw [step, add_of_rule?_error h hd]
      exact .refused hd
    | ok rule =>
      rw [step, add_of_rule? hd]
      by_cases hm : d.filterSet ∈ s.rules.map Rule.filterSet
      case pos =>
        have ⟨before, r, after, hs, hf, hr⟩ := redefine?_of_mem rule.overlay hm
        rw [hr, hs]
        exact .updated hd (RuleDef.says_of_rule? hd) hf
      case neg =>
        rw [redefine?_of_new hm]
        exact .added hd (RuleDef.says_of_rule? hd) (RuleDef.filterSet_of_rule? hd) hm
  case updateRoute route =>
    refine .routed (List.forall₂_map_right_iff.2 (List.forall₂_same.2 fun r _ => ?_))
    exact r.follow_eq route

namespace Effect

theorem filterSets (h : Effect rs call answer rs') :
    rs'.map Rule.filterSet = rs.map Rule.filterSet ∨
      ∃ d : RuleDef, d.filterSet ∉ rs.map Rule.filterSet ∧
        rs'.map Rule.filterSet = rs.map Rule.filterSet ++ [d.filterSet] := by
  cases h
  case added d rule _ _ hf hn => exact .inr ⟨d, hn, by simp [hf]⟩
  case updated => exact .inl (by simp [Rule.filterSet])
  case refused => exact .inl rfl
  case routed hr =>
    left
    induction hr with
    | nil => rfl
    | cons hr _ hi =>
      rw [List.map_cons, hi, hr]
      rfl

theorem nodup (h : Effect rs call answer rs') (hn : (rs.map Rule.filterSet).Nodup) :
    (rs'.map Rule.filterSet).Nodup := by
  cases h.filterSets
  case inl hf => rwa [hf]
  case inr hf =>
    have ⟨d, hd, hf⟩ := hf
    rw [hf, ← List.concat_eq_append]
    exact hn.concat hd

theorem wellFormed (h : Effect rs call answer rs') (hw : ∀ r ∈ rs, r.WellFormed) :
    ∀ r ∈ rs', r.WellFormed := by
  cases h
  case added hd _ _ _ =>
    rw [List.forall_mem_append]
    exact ⟨hw, by simpa using RuleDef.wellFormed_of_rule? hd⟩
  case updated hd _ _ =>
    simp only [List.forall_mem_append, List.forall_mem_cons] at hw ⊢
    have ⟨hb, hr, ha⟩ := hw
    exact ⟨hb, ⟨RuleDef.group_of_rule? hd, hr.filtered, hr.predicate⟩, ha⟩
  case refused => exact hw
  case routed hr =>
    induction hr with
    | nil => exact hw
    | cons hr _ hi =>
      have ⟨h, hs⟩ := List.forall_mem_cons.1 hw
      exact List.forall_mem_cons.2 ⟨hr ▸ ⟨h.group, h.filtered, h.predicate⟩, hi hs⟩

end Effect

-- What no call takes from the rules.
structure Sound (s : StreamRules) : Prop where
  compiled   : s.Compiled
  distinct   : (s.rules.map Rule.filterSet).Nodup
  wellFormed : ∀ r ∈ s.rules, r.WellFormed

theorem step_compiled (h : s.Compiled) (call : StreamCall) : (s.step call).2.Compiled := by
  cases call
  case add d             => exact add_compiled h d
  case updateRoute route => exact updateRoute_compiled h route

namespace Sound

theorem empty : Sound .empty :=
  ⟨fun _ => nofun, .nil, fun _ => nofun⟩

theorem step (h : s.Sound) (call : StreamCall) : (s.step call).2.Sound :=
  have he := effect_step h.compiled call
  ⟨step_compiled h.compiled call, he.nodup h.distinct, he.wellFormed h.wellFormed⟩

end Sound

-- After any calls:
-- 1. no two rules have the same filter set
-- 2. every rule is one that a definition can make
-- 3. a further call does to the rules what it does to those of an ordered map
theorem refine_ordered_map (calls : List StreamCall) :
    let s := machine.run calls
    (s.rules.map Rule.filterSet).Nodup ∧ (∀ r ∈ s.rules, r.WellFormed) ∧
      ∀ call, Effect s.rules call (s.step call).1 (machine.run (calls ++ [call])).rules := by
  intro s
  have h : s.Sound := machine.run_invariant .empty (fun _ call h => h.step call) calls
  refine ⟨h.distinct, h.wellFormed, fun call => ?_⟩
  rw [machine.run_append_singleton]
  exact effect_step h.compiled call

end StreamRules

end AudioRules

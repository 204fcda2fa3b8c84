import AudioRules.Error
import AudioRules.Proofs.Except
import AudioRules.Proofs.StateMachine
import AudioRules.Proofs.RuleTable

namespace AudioRules

-- Calls that change a table, with definitions `δ`.
inductive TableCall (δ : Type)
  | add (rule : δ)
  | remove (label : String)

inductive TableAnswer
  | change (change : RuleChange)
  | refusal (error : RuleError)
  | removal (present : Bool)

def TableAnswer.ofResult : Except RuleError RuleChange → TableAnswer
  | .ok made => change made
  | .error e => refusal e

-- Tables `τ` whose rules `ρ` are built from definitions `δ`.
structure TableKind (δ ρ τ : Type) where
  labelOf : δ → String
  build   : δ → Except RuleError ρ
  empty   : τ
  get?    : τ → String → Option ρ
  add     : τ → δ → Except RuleError RuleChange × τ
  remove  : τ → String → Bool × τ
  -- a table is nothing but its rules
  rules   : τ → RuleTable ρ
  ofRules : RuleTable ρ → τ
  rules_ofRules : rules (ofRules r) = r
  ofRules_rules : ofRules (rules t) = t
  rules_empty   : rules empty = .empty
  get?_eq   : get? t l = (rules t).get? l
  add_eq    : add t d = ((rules t).define (labelOf d) (build d)).map id ofRules
  remove_eq : remove t l = ((rules t).contains l, ofRules ((rules t).erase l))
  labelOf_ne_empty : build d = .ok rule → labelOf d ≠ ""

namespace TableKind

variable {δ ρ τ : Type} (K : TableKind δ ρ τ)

def entries (t : τ) : List (String × ρ) := (K.rules t).entries

def step (t : τ) : TableCall δ → TableAnswer × τ
  | .add d        => (K.add t d).map .ofResult id
  | .remove label => (K.remove t label).map .removal id

def machine : StateMachine (TableCall δ) TableAnswer τ where
  start := K.empty
  step  := K.step

abbrev run (calls : List (TableCall δ)) : τ := K.machine.run calls

-- What a call does to a map that is kept in the order of its entries, and what it answers:
-- 1. a definition under a new label goes to the end, and one under a known label takes the place
--    of the rule that is there
-- 2. a definition that does not build changes nothing
-- 3. a removal takes the entry of its label and leaves all others in their order
inductive Effect : List (String × ρ) → TableCall δ → TableAnswer → List (String × ρ) → Prop
  | added : K.build d = .ok rule → K.labelOf d ∉ es.map Prod.fst →
      Effect es (.add d) (.change .added) (es ++ [(K.labelOf d, rule)])
  | updated : K.build d = .ok rule →
      Effect (before ++ (K.labelOf d, old) :: after) (.add d) (.change .updated)
        (before ++ (K.labelOf d, rule) :: after)
  | refused : K.build d = .error e → Effect es (.add d) (.refusal e) es
  | removed : Effect (before ++ (label, old) :: after) (.remove label) (.removal true)
      (before ++ after)
  | absent : label ∉ es.map Prod.fst → Effect es (.remove label) (.removal false) es

-- Accepted definitions and removals settle what is under a label, whatever was there before.
inductive Settles (label : String) : TableCall δ → Prop
  | add : K.labelOf d = label → K.build d = .ok rule → Settles label (.add d)
  | remove : Settles label (.remove label)

-- The rule comes from the last accepted definition of the label since its last removal.
def LastDefines (calls : List (TableCall δ)) (label : String) (rule : ρ) : Prop :=
  ∃ before d after, calls = before ++ .add d :: after ∧ K.labelOf d = label ∧
    K.build d = .ok rule ∧ ∀ call ∈ after, ¬K.Settles label call

variable {K} {t : τ} {d : δ} {call : TableCall δ} {calls : List (TableCall δ)} {label : String}
  {rule : ρ}

theorem run_append_singleton (K : TableKind δ ρ τ) (calls : List (TableCall δ))
    (call : TableCall δ) : K.run (calls ++ [call]) = (K.step (K.run calls) call).2 :=
  K.machine.run_append_singleton calls call

theorem step_add_of_ok (h : K.build d = .ok rule) : K.step t (.add d) =
    (.change ((K.rules t).changeOf (K.labelOf d)),
      K.ofRules ((K.rules t).put (K.labelOf d) rule)) := by
  rw [step, K.add_eq, h]
  rfl

theorem step_add_of_error (h : K.build d = .error e) : K.step t (.add d) = (.refusal e, t) := by
  have he : K.add t d = (.error e, t) := by
    rw [K.add_eq, h]
    exact congrArg _ K.ofRules_rules
  rw [step, he]
  rfl

theorem step_remove (t : τ) (label : String) : K.step t (.remove label) =
    (.removal ((K.rules t).contains label), K.ofRules ((K.rules t).erase label)) := by
  rw [step, K.remove_eq]
  rfl

theorem effect_step (K : TableKind δ ρ τ) (t : τ) (call : TableCall δ) :
    K.Effect (K.entries t) call (K.step t call).1 (K.entries (K.step t call).2) := by
  cases call
  case add d =>
    cases hb : K.build d with
    | error e =>
      rw [step_add_of_error hb]
      exact .refused hb
    | ok rule =>
      simp only [step_add_of_ok hb, entries, K.rules_ofRules, RuleTable.changeOf,
        RuleTable.contains_iff]
      by_cases hl : K.labelOf d ∈ (K.rules t).labels
      case pos =>
        obtain ⟨before, old, after, he, hp⟩ := RuleTable.put_of_mem hl rule
        rw [if_pos hl, he, hp]
        exact .updated hb
      case neg =>
        rw [if_neg hl, RuleTable.put_of_new hl rule]
        exact .added hb hl
  case remove label =>
    simp only [step_remove, entries, K.rules_ofRules]
    by_cases hl : label ∈ (K.rules t).labels
    case pos =>
      obtain ⟨before, old, after, he, hr⟩ := RuleTable.erase_of_mem hl
      rw [RuleTable.contains_iff.2 hl, he, hr]
      exact .removed
    case neg =>
      rw [Bool.eq_false_iff.2 (mt RuleTable.contains_iff.1 hl), RuleTable.erase_of_not_mem hl]
      exact .absent hl

theorem settles_remove_iff : K.Settles label (.remove label') ↔ label' = label := by
  constructor
  case mp =>
    intro h
    cases h
    rfl
  case mpr =>
    rintro rfl
    exact .remove

theorem get?_step : K.get? (K.step t call).2 label = some rule ↔
    (∃ d, call = .add d ∧ K.labelOf d = label ∧ K.build d = .ok rule) ∨
      ¬K.Settles label call ∧ K.get? t label = some rule := by
  simp only [K.get?_eq]
  cases call
  case add d =>
    cases hb : K.build d with
    | error e =>
      have hs : ¬K.Settles label (.add d) := by
        rintro (⟨_, h⟩ | _)
        cases hb.symm.trans h
      simp [step_add_of_error hb, hs, hb]
    | ok built =>
      rw [step_add_of_ok hb, K.rules_ofRules, RuleTable.get?_put]
      by_cases hl : K.labelOf d = label
      case pos =>
        have hs : K.Settles label (.add d) := .add hl hb
        simp [hl, hs, hb]
      case neg =>
        have hs : ¬K.Settles label (.add d) := by
          rintro (⟨h, _⟩ | _)
          exact hl h
        simp [hl, hs, Ne.symm hl]
  case remove label' =>
    rw [step_remove, K.rules_ofRules, RuleTable.get?_erase, settles_remove_iff]
    by_cases hl : label = label' <;> simp [hl, eq_comm]

theorem lastDefines_append_singleton : K.LastDefines (calls ++ [call]) label rule ↔
    (∃ d, call = .add d ∧ K.labelOf d = label ∧ K.build d = .ok rule) ∨
      ¬K.Settles label call ∧ K.LastDefines calls label rule := by
  simp only [LastDefines, append_singleton_eq_cut_iff]
  constructor
  case mp =>
    rintro ⟨before, d, after, ⟨_, rfl, _⟩ | ⟨after', rfl, hc⟩, hl, hb, hs⟩
    case inl => exact .inl ⟨d, rfl, hl, hb⟩
    case inr =>
      rw [List.forall_mem_append] at hs
      exact .inr ⟨hs.2 call (by simp), before, d, after', hc, hl, hb, hs.1⟩
  case mpr =>
    rintro (⟨d, rfl, hl, hb⟩ | ⟨hn, before, d, after, rfl, hl, hb, hs⟩)
    case inl => exact ⟨calls, d, [], .inl ⟨rfl, rfl, rfl⟩, hl, hb, by simp⟩
    case inr =>
      refine ⟨before, d, after ++ [call], .inr ⟨after, rfl, rfl⟩, hl, hb, ?_⟩
      rw [List.forall_mem_append]
      exact ⟨hs, by simpa using hn⟩

-- Both sides change alike with every call.
theorem get?_run_iff (K : TableKind δ ρ τ) (calls : List (TableCall δ)) (label : String)
    (rule : ρ) : K.get? (K.run calls) label = some rule ↔ K.LastDefines calls label rule := by
  induction calls using List.reverseRecOn with
  | nil =>
    have hn : K.get? (K.run []) label = none := by
      rw [K.get?_eq]
      exact congrArg (RuleTable.get? · label) K.rules_empty
    simp [hn, LastDefines]
  | append_singleton calls call hi =>
    rw [run_append_singleton, lastDefines_append_singleton, ← hi]
    exact get?_step

theorem mem_entries_iff : (label, rule) ∈ K.entries t ↔ K.get? t label = some rule := by
  rw [K.get?_eq]
  exact RuleTable.mem_entries_iff

-- So whatever is in a table is what a definition with its label builds.
theorem built_of_mem_run (h : (label, rule) ∈ K.entries (K.run calls)) :
    ∃ d, K.labelOf d = label ∧ K.build d = .ok rule := by
  have ⟨_, d, _, _, hl, hb, _⟩ := (K.get?_run_iff ..).1 (mem_entries_iff.1 h)
  exact ⟨d, hl, hb⟩

-- A table after some calls is the map that they make:
-- 1. from here on, calls do to its entries what they do to those of an ordered map
-- 2. its labels are distinct, and none is empty
-- 3. under each label it has what was last put there
structure Follows (K : TableKind δ ρ τ) (calls : List (TableCall δ)) : Prop where
  effect   : ∀ call, K.Effect (K.entries (K.run calls)) call (K.step (K.run calls) call).1
    (K.entries (K.run (calls ++ [call])))
  distinct : ((K.entries (K.run calls)).map Prod.fst).Nodup
  nonempty : ∀ entry ∈ K.entries (K.run calls), entry.1 ≠ ""
  get?_iff : ∀ label rule,
    K.get? (K.run calls) label = some rule ↔ K.LastDefines calls label rule

theorem follows (K : TableKind δ ρ τ) (calls : List (TableCall δ)) : K.Follows calls where
  effect call := by
    rw [run_append_singleton]
    exact K.effect_step _ call
  distinct := (K.rules (K.run calls)).distinct
  nonempty := fun (label, rule) h => by
    obtain ⟨d, rfl, hb⟩ := built_of_mem_run h
    exact K.labelOf_ne_empty hb
  get?_iff := K.get?_run_iff calls

end TableKind

end AudioRules

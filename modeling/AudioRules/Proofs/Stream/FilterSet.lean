import AudioRules.Proofs.Stream.Registration

namespace AudioRules

theorem sameOptional_iff_spec {p? : Option Predicate} {s? : Option PredicateSpec} :
    sameOptional p? s? ↔ p?.map (·.spec) = s?.map (·.normal) := by
  cases p? <;> cases s? <;> simp [sameOptional, Predicate.isSameAs_iff_spec]

namespace Stream

def RuleDef.filterSet (d : RuleDef) : Filters PredicateSpec :=
  { d.filters with predicate := d.filters.predicate.map (·.normal) }

def Rule.filterSet (r : Rule) : Filters PredicateSpec :=
  { r.filters with predicate := r.filters.predicate.map (·.spec) }

theorem Rule.hasFiltersOf_iff_filterSet {r : Rule} {d : RuleDef} :
    r.hasFiltersOf d ↔ r.filterSet = d.filterSet := by
  simp [hasFiltersOf, filterSet, RuleDef.filterSet, sameOptional_iff_spec, and_assoc]

-- What every rule has that a definition can make.
structure Rule.WellFormed (r : Rule) : Prop where
  group     : r.group ≠ ""
  filtered  : r.filters.predicate ≠ none ∨ r.filters.uid ≠ none ∨ r.filters.exe ≠ none
  predicate : ∀ p, r.filters.predicate = some p →
    p.test = .always ∨ ∃ key, p.target = .property key

-- The rule does with streams what the definition says; an overlay is the property list that its text
-- is.
structure Rule.Says (r : Rule) (d : RuleDef) : Prop where
  group   : r.group = d.group
  flags   : r.flags = d.flags
  overlay : Option.Rel (fun text properties => Proplist.parse text = .ok properties) d.overlay
    r.overlay

end Stream

-- A property list can only be asked for its properties.
theorem Predicate.asks_of_compile (h : compile .proplist s = .ok p) :
    p.test = .always ∨ ∃ key, p.target = .property key := by
  obtain ⟨hs, test, ht, rfl⟩ := compile_eq_ok.1 h
  simp only [suits, bne_self_eq_false, Bool.false_or, Bool.or_eq_true, beq_iff_eq] at hs
  cases hs
  case inl hm =>
    rw [hm] at ht
    obtain ⟨hm, _⟩ := Test.method_arg_of_compile ht
    cases test with
    | always => exact .inl rfl
    | _      => cases hm
  case inr hk =>
    cases hs : s.target with
    | property key => exact .inr ⟨key, rfl⟩
    | _            => simp [hs] at hk

namespace Stream.RuleDef

variable {d : RuleDef} {rule : Rule} {overlay : Option Proplist}

theorem check_eq_ok : d.check = .ok overlay ↔ d.group ≠ "" ∧
    (d.filters.predicate ≠ none ∨ d.filters.uid ≠ none ∨ d.filters.exe ≠ none) ∧
      d.overlay? = .ok overlay := by
  unfold check
  by_cases hg : d.group = ""
  case pos => simp [hg]
  case neg =>
    by_cases hf : d.filters.predicate = none ∧ d.filters.uid = none ∧ d.filters.exe = none
    case pos => simp [hg, hf]
    case neg =>
      have hn : d.filters.predicate ≠ none ∨ d.filters.uid ≠ none ∨ d.filters.exe ≠ none := by
        simpa only [Decidable.not_and_iff_not_or_not] using hf
      simp only [hg, hf, hn, if_false, not_false_eq_true, true_and, ne_eq]

theorem overlay?_eq_ok : d.overlay? = .ok overlay ↔
    Option.Rel (fun text properties => Proplist.parse text = .ok properties) d.overlay overlay := by
  unfold overlay?
  cases d.overlay with
  | none => cases overlay <;> simp
  | some text => cases hp : Proplist.parse text <;> cases overlay <;> simp [hp]

theorem rule?_eq_ok : d.rule? = .ok rule ↔
    ∃ overlay, d.check = .ok overlay ∧ d.build overlay = .ok rule :=
  Except.bind_eq_ok

theorem filterSet_of_rule? (h : d.rule? = .ok rule) : rule.filterSet = d.filterSet := by
  have ⟨overlay, _, hb⟩ := rule?_eq_ok.1 h
  obtain ⟨predicate, hp, rfl⟩ := build_eq_ok.1 hb
  have hs := sameOptional_iff_spec.1 ((sameOptional_iff ⟨_, hp⟩).2 hp)
  simp only [Rule.filterSet, filterSet, hs]

theorem says_of_rule? (h : d.rule? = .ok rule) : rule.Says d := by
  have ⟨overlay, hc, hb⟩ := rule?_eq_ok.1 h
  have ⟨_, _, ho⟩ := check_eq_ok.1 hc
  obtain ⟨predicate, _, rfl⟩ := build_eq_ok.1 hb
  exact ⟨rfl, rfl, overlay?_eq_ok.1 ho⟩

theorem group_of_rule? (h : d.rule? = .ok rule) : d.group ≠ "" := by
  have ⟨overlay, hc, _⟩ := rule?_eq_ok.1 h
  exact (check_eq_ok.1 hc).1

theorem wellFormed_of_rule? (h : d.rule? = .ok rule) : rule.WellFormed := by
  have ⟨overlay, hc, hb⟩ := rule?_eq_ok.1 h
  have ⟨hg, hf, _⟩ := check_eq_ok.1 hc
  obtain ⟨predicate, hp, rfl⟩ := build_eq_ok.1 hb
  constructor
  case group => exact hg
  case filtered =>
    refine hf.imp_left fun hs hn => hs ?_
    cases hs : d.filters.predicate with
    | none => rfl
    | some s => simp [AppIds.compile?, hs, show predicate = none from hn] at hp
  case predicate =>
    rintro p rfl
    cases hs : d.filters.predicate with
    | none => simp [AppIds.compile?, hs] at hp
    | some s =>
      simp only [AppIds.compile?, hs, Except.map_eq_ok, Option.some.injEq, exists_eq_right] at hp
      exact Predicate.asks_of_compile hp

end Stream.RuleDef

end AudioRules

import AudioRules.Proofs.Predicate.Compiled
import AudioRules.Stream

namespace AudioRules

namespace Stream

-- A rule that is there stays in its place, as active as it is.
def byFilters : Keyed Rule (Filters Predicate) where
  key            := Rule.filters
  revise old new := { old with group := new.group, flags := new.flags, overlay := new.overlay }
  key_revise _   := rfl
  revise_revise  := rfl

-- As active as a new rule is; one that is bound to a sink waits for the route.
def Rule.unrouted (r : Rule) : Rule :=
  { r with activity := if r.filters.sink.isSome then .inactive else .notApplicable }

theorem revise_unrouted {r r' : Rule} (h : r.filters = r'.filters) :
    byFilters.revise r.unrouted r'.unrouted = r'.unrouted := by
  simp [byFilters, Rule.unrouted, h]

variable {overlay : Option Proplist}

namespace RuleDef

def rule? (d : RuleDef) : Except RuleError Rule :=
  d.check >>= d.build

theorem predicate?_eq (d : RuleDef) :
    d.predicate? = (AppIds.compile? d.filters.predicate).mapError .predicate := by
  unfold predicate? AppIds.compile?
  cases d.filters.predicate <;> rfl

theorem build_eq_ok {d : RuleDef} : d.build overlay = .ok rule ↔
    ∃ predicate, AppIds.compile? d.filters.predicate = .ok predicate ∧
      rule = {
        filters := { d.filters with predicate }
        activity := if d.filters.sink.isSome then .inactive else .notApplicable
        group := d.group
        flags := d.flags
        overlay } := by
  simp only [build, predicate?_eq, Except.bind_eq_ok, Except.mapError_eq_ok, Except.pure_eq_ok,
    eq_comm (b := rule)]

theorem unrouted_of_rule? {d : RuleDef} (h : d.rule? = .ok rule) : rule.unrouted = rule := by
  have ⟨_, _, hb⟩ := Except.bind_eq_ok.1 h
  obtain ⟨_, _, rfl⟩ := build_eq_ok.1 hb
  rfl

theorem overlay_of_build {d : RuleDef} (h : d.build overlay = .ok rule) :
    rule.overlay = overlay := by
  obtain ⟨_, _, rfl⟩ := build_eq_ok.1 h
  rfl

theorem build_compiled {d : RuleDef} (h : d.build overlay = .ok rule) :
    CompiledOptional rule.filters.predicate := by
  obtain ⟨predicate, hp, rfl⟩ := build_eq_ok.1 h
  exact ⟨_, hp⟩

end RuleDef

namespace Rule

theorem hasFiltersOf_iff {r : Rule} {d : RuleDef} (h : CompiledOptional r.filters.predicate) :
    r.hasFiltersOf d ↔ AppIds.compile? d.filters.predicate = .ok r.filters.predicate ∧
      r.filters = { d.filters with predicate := r.filters.predicate } := by
  obtain ⟨⟨predicate, client, sink, uid, exe⟩, activity, group, flags, overlay⟩ := r
  simp [hasFiltersOf, sameOptional_iff h, and_assoc]

-- A route changes nothing but the activity.
theorem follow_eq (r : Rule) (route : String) :
    r.follow route = { r with activity := (r.follow route).activity } := by
  unfold follow
  split <;> rfl

theorem hasFiltersOf_iff_of_build {r : Rule} {d : RuleDef}
    (h : CompiledOptional r.filters.predicate) (hb : d.build overlay = .ok rule) :
    r.hasFiltersOf d ↔ r.filters = rule.filters := by
  obtain ⟨predicate, hp, rfl⟩ := RuleDef.build_eq_ok.1 hb
  rw [hasFiltersOf_iff h, hp]
  constructor
  case mp =>
    rintro ⟨he, hf⟩
    rw [hf, Except.ok.inj he]
  case mpr =>
    intro hf
    simp [hf]

end Rule

end Stream

namespace StreamRules

def Compiled (s : StreamRules) : Prop :=
  ∀ r ∈ s.rules, CompiledOptional r.filters.predicate

theorem compiled_iff {s : StreamRules} : s.Compiled ↔
    ∀ filters ∈ s.rules.map Stream.byFilters.key, CompiledOptional filters.predicate := by
  rw [List.forall_mem_map]
  rfl

variable {s : StreamRules} {d : Stream.RuleDef} {overlay : Option Proplist}

theorem redefine?_of_build {rs : List Stream.Rule}
    (h : ∀ r ∈ rs, CompiledOptional r.filters.predicate) (hb : d.build overlay = .ok rule) :
    (redefine? d overlay rs).getD (rs ++ [rule]) = Stream.byFilters.put rule rs := by
  induction rs with
  | nil => rfl
  | cons r rs hi =>
    have ⟨hr, hrs⟩ := List.forall_mem_cons.1 h
    have hf := Stream.Rule.hasFiltersOf_iff_of_build hr hb
    unfold redefine? Keyed.put
    by_cases hk : Stream.byFilters.key r = Stream.byFilters.key rule
    case pos =>
      have hd : r.redefine d overlay = Stream.byFilters.revise r rule := by
        obtain ⟨_, _, rfl⟩ := Stream.RuleDef.build_eq_ok.1 hb
        rfl
      simp [hf.2 hk, hd, hk]
    case neg =>
      rw [if_neg hk, if_neg (mt hf.1 hk), ← hi hrs]
      cases redefine? d overlay rs <;> rfl

-- A definition with the filters of a rule that is there compiles.
theorem redefine?_of_build_error {rs : List Stream.Rule}
    (h : ∀ r ∈ rs, CompiledOptional r.filters.predicate) (hb : d.build overlay = .error e) :
    redefine? d overlay rs = none := by
  induction rs with
  | nil => rfl
  | cons r rs hi =>
    have ⟨hr, hrs⟩ := List.forall_mem_cons.1 h
    unfold redefine?
    split
    case isTrue hf =>
      have ⟨hp, _⟩ := (Stream.Rule.hasFiltersOf_iff hr).1 hf
      have hb' : d.build overlay = .ok _ := Stream.RuleDef.build_eq_ok.2 ⟨_, hp, rfl⟩
      cases hb.symm.trans hb'
    case isFalse => simp [hi hrs]

theorem add_of_rule?_error (h : s.Compiled) (hr : d.rule? = .error e) :
    s.add d = (.error e, s) := by
  unfold Stream.RuleDef.rule? at hr
  unfold add
  cases hc : d.check with
  | error e' =>
    cases hc ▸ hr
    rfl
  | ok overlay =>
    have hb : d.build overlay = .error e := by simpa [hc, bind, Except.bind] using hr
    simp [redefine?_of_build_error h hb, hb]

theorem add_of_rule? (hr : d.rule? = .ok rule) : s.add d =
    match redefine? d rule.overlay s.rules with
    | some rules => (.ok .updated, ⟨rules⟩)
    | none       => (.ok .added, ⟨s.rules ++ [rule]⟩) := by
  have ⟨overlay, hc, hb⟩ := Except.bind_eq_ok.1 hr
  rw [add, hc, Stream.RuleDef.overlay_of_build hb]
  dsimp only
  cases redefine? d overlay s.rules <;> simp [hb]

theorem exists_add_of_rule? (h : s.Compiled) (hr : d.rule? = .ok rule) :
    ∃ change, s.add d = (.ok change, ⟨Stream.byFilters.put rule s.rules⟩) := by
  have ⟨overlay, _, hb⟩ := Except.bind_eq_ok.1 hr
  rw [add_of_rule? hr, Stream.RuleDef.overlay_of_build hb, ← redefine?_of_build h hb]
  cases redefine? d overlay s.rules <;> exact ⟨_, rfl⟩

theorem add_error? (h : s.Compiled) (d : Stream.RuleDef) :
    (s.add d).1.error? = d.rule?.error? := by
  cases hr : d.rule? with
  | error e =>
    rw [add_of_rule?_error h hr]
    rfl
  | ok rule =>
    have ⟨_, ha⟩ := exists_add_of_rule? h hr
    rw [ha]
    rfl

-- Nothing is changed before the last thing that can fail.
theorem add_of_error (h : (s.add d).1 = .error e) : (s.add d).2 = s := by
  unfold add at h ⊢
  split
  case h_1 => rfl
  case h_2 overlay hc =>
    rw [hc] at h
    dsimp only at h
    cases hr : redefine? d overlay s.rules with
    | some rules => simp [hr] at h
    | none       => cases hb : d.build overlay <;> simp_all

theorem add_compiled (h : s.Compiled) (d : Stream.RuleDef) : (s.add d).2.Compiled := by
  cases hr : d.rule? with
  | error e => rwa [add_of_rule?_error h hr]
  | ok rule =>
    have ⟨_, _, hb⟩ := Except.bind_eq_ok.1 hr
    have ⟨_, ha⟩ := exists_add_of_rule? h hr
    rw [ha, compiled_iff]
    rw [compiled_iff] at h
    intro filters hm
    cases Keyed.mem_keys_put.1 hm
    case inl hm => exact h filters hm
    case inr hm => exact hm ▸ Stream.RuleDef.build_compiled hb

theorem updateRoute_compiled (h : s.Compiled) (route : String) : (s.updateRoute route).Compiled := by
  intro r' hm
  obtain ⟨r, hr, rfl⟩ := List.mem_map.1 hm
  have hf : (r.follow route).filters = r.filters := by rw [r.follow_eq]
  exact hf ▸ h r hr

end StreamRules

end AudioRules

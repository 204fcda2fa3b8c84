import AudioRules.Proofs.Engine.Compiled
import AudioRules.Proofs.Stream.Calls

namespace AudioRules

namespace Stream

-- What of a rule matters to routes.
structure Standing where
  filters  : Filters PredicateSpec
  activity : Activity

def Rule.standing (r : Rule) : Standing := ⟨r.filterSet, r.activity⟩

namespace Standing

-- As a rule stands that no route has found yet.
def Waits (x : Standing) : Prop :=
  x.activity = if x.filters.sink.isSome then .inactive else .notApplicable

-- As a rule stands that has been routed to some sinks.
structure Follows (x : Standing) (routed : String → Prop) : Prop where
  notApplicable : x.activity = .notApplicable ↔ x.filters.sink = none
  active        : x.activity = .active ↔ ∃ route, x.filters.sink = some route ∧ routed route
  inactive      : x.activity = .inactive ↔ ∃ route, x.filters.sink = some route ∧ ¬routed route

variable {x : Standing} {routed routed' : String → Prop}

theorem Follows.congr (h : x.Follows routed) (hr : ∀ route, routed route ↔ routed' route) :
    x.Follows routed' := by
  obtain rfl : routed = routed' := funext fun route => propext (hr route)
  exact h

theorem Waits.follows (h : x.Waits) (hr : ∀ route, ¬routed route) : x.Follows routed := by
  unfold Waits at h
  cases hs : x.filters.sink <;> constructor <;> simp [h, hs, hr]

theorem Follows.follow {r : Rule} (h : r.standing.Follows routed) (route : String) :
    (r.follow route).standing.Follows (route = ·) := by
  unfold Rule.follow
  cases hs : r.filters.sink with
  | none =>
    have ha : r.activity = .notApplicable := h.notApplicable.2 hs
    constructor <;> simp [Rule.standing, Rule.filterSet, hs, ha]
  | some sink =>
    by_cases he : route = sink <;> constructor <;>
      simp [Rule.standing, Rule.filterSet, hs, he, eq_comm (a := sink)]

end Standing

theorem Rule.filterSet_follow (r : Rule) (route : String) :
    (r.follow route).filterSet = r.filterSet := by
  rw [r.follow_eq, filterSet, filterSet]

theorem Rule.follow_follow (r : Rule) (route route' : String) :
    (r.follow route).follow route' = r.follow route' := by
  unfold follow
  cases hs : r.filters.sink <;> simp [hs]

end Stream

open AudioRules.Stream (Rule RuleDef Filters Standing)

namespace StreamRules

def standings (s : StreamRules) : List Standing := s.rules.map Rule.standing

-- Rules with new filter sets come to the end and wait for a route. All others stand as before.
def Grows (xs xs' : List Standing) : Prop :=
  ∃ new, xs' = xs ++ new ∧ ∀ x ∈ new, x.filters ∉ xs.map Standing.filters ∧ x.Waits

namespace Grows

variable {xs xs' xs'' : List Standing}

theorem refl (xs : List Standing) : Grows xs xs :=
  ⟨[], by simp⟩

theorem trans (h : Grows xs xs') (h' : Grows xs' xs'') : Grows xs xs'' := by
  obtain ⟨new, rfl, hn⟩ := h
  obtain ⟨new', rfl, hn'⟩ := h'
  refine ⟨new ++ new', List.append_assoc .., List.forall_mem_append.2 ⟨hn, fun x hx => ?_⟩⟩
  have ⟨hx, hw⟩ := hn' x hx
  rw [List.map_append, List.mem_append, not_or] at hx
  exact ⟨hx.1, hw⟩

end Grows

theorem standings_filters (s : StreamRules) :
    s.standings.map Standing.filters = s.rules.map Rule.filterSet := by
  simp [standings, Rule.standing]

theorem updateRoute_filterSets (s : StreamRules) (route : String) :
    (s.updateRoute route).rules.map Rule.filterSet = s.rules.map Rule.filterSet := by
  simp [updateRoute, Rule.filterSet_follow]

theorem updateRoute_updateRoute (s : StreamRules) (route route' : String) :
    (s.updateRoute route).updateRoute route' = s.updateRoute route' := by
  simp [updateRoute, Rule.follow_follow]

variable {d : RuleDef} {rs rs' : List Rule}

namespace Effect

theorem grows (h : Effect rs (.add d) answer rs') :
    Grows (rs.map Rule.standing) (rs'.map Rule.standing) := by
  cases h
  case added rule hd _ hf hn =>
    refine ⟨[rule.standing], by simp, ?_⟩
    have hw : rule.standing.Waits := congrArg Rule.activity (RuleDef.unrouted_of_rule? hd).symm
    rw [List.map_map, List.forall_mem_singleton]
    exact ⟨show rule.filterSet ∉ _ from hf ▸ hn, hw⟩
  case updated => exact ⟨[], by simp [Rule.standing, Rule.filterSet]⟩
  case refused => exact .refl _

theorem standings_of_updated (h : Effect rs call (.change .updated) rs') :
    rs'.map Rule.standing = rs.map Rule.standing := by
  cases h
  simp [Rule.standing, Rule.filterSet]

end Effect

end StreamRules

namespace EngineCall

-- Where a call moves the route.
def route? : EngineCall → Option String
  | updateRoute route => some route
  | _                 => none

-- What a call asks of the stream rules.
def streamCall? (vars : Variables) : EngineCall → Option StreamCall
  | addStream rule    => some (.add (vars.inStream rule))
  | updateRoute route => some (.updateRoute route)
  | _                 => none

variable {host : ModuleHost σ} {c c' : Classifier} {call : EngineCall}

theorem route?_eq_some : call.route? = some route ↔ call = .updateRoute route := by
  cases call <;> simp [route?]

theorem Registers.route?_eq_none (h : call.Registers) : call.route? = none := by
  cases call <;> first | rfl | cases h

theorem step_streams (hl : ∀ rules, call ≠ .load rules) (s : σ) :
    (call.step host c s).1.streams =
      (call.streamCall? c.vars).elim c.streams fun sc => (c.streams.step sc).2 := by
  cases call
  case load rules => exact absurd rfl (hl rules)
  case addDevice d rule     => cases d <;> rfl
  case removeDevice d label => cases d <;> rfl
  case updateModule d label =>
    obtain ⟨_, hm⟩ := exists_step_updateModule host c s d label
    exact hm ▸ rfl
  all_goals rfl

theorem step_grows (hl : ∀ rules, call ≠ .load rules) (hr : call.route? = none) (h : c.Compiled)
    (s : σ) : StreamRules.Grows c.streams.standings (call.step host c s).1.streams.standings := by
  rw [step_streams hl]
  cases call
  case updateRoute route => cases hr
  case addStream rule    => exact (StreamRules.effect_step h.streams _).grows
  all_goals exact .refl _

theorem Registered.grows (h : Registered c c') (hc : c.Compiled) :
    StreamRules.Grows c.streams.standings c'.streams.standings := by
  let P (c' : Classifier) :=
    c'.Compiled ∧ StreamRules.Grows c.streams.standings c'.streams.standings
  have hp : P c' := h.induction ⟨hc, .refl _⟩ fun _ _ s _ hr ⟨hc, hg⟩ =>
    ⟨step_compiled hr.ne_load hc s, hg.trans (step_grows hr.ne_load hr.route?_eq_none hc s)⟩
  exact hp.2

-- Loading a rule set included.
theorem grows_of_no_route (hr : call.route? = none) (h : c.Compiled) (s : σ) :
    StreamRules.Grows c.streams.standings (call.step host c s).1.streams.standings := by
  by_cases hl : ∃ rules, call = .load rules
  case pos =>
    obtain ⟨rules, rfl⟩ := hl
    exact (rules.apply_registered c).grows h
  case neg => exact step_grows (not_exists.1 hl) hr h s

section Runs

variable (host : ModuleHost σ) (config : EngineConfig) (s : σ)

def streamsAfter (calls : List EngineCall) : StreamRules := (run host { config } s calls).1.streams

def filterSetsAfter (calls : List EngineCall) : List (Filters PredicateSpec) :=
  (streamsAfter host config s calls).rules.map Rule.filterSet

-- The call is the first to bring a rule with the filters.
structure FirstAdds (before : List EngineCall) (call : EngineCall) (filters : Filters PredicateSpec) :
    Prop where
  absent  : filters ∉ filterSetsAfter host config s before
  present : filters ∈ filterSetsAfter host config s (before ++ [call])

-- There has been a route since a rule with the filters was first added, and the last of all went
-- to the sink.
structure RoutedSince (calls : List EngineCall) (filters : Filters PredicateSpec) (sink : String) :
    Prop where
  since : ∃ before call after route, calls = before ++ call :: after ∧
    FirstAdds host config s before call filters ∧ .updateRoute route ∈ after
  last  : (calls.filterMap route?).getLast? = some sink

-- All rules stand as the history of routes has it.
def StandingsFollow (calls : List EngineCall) : Prop :=
  ∀ x ∈ (streamsAfter host config s calls).standings,
    x.Follows (RoutedSince host config s calls x.filters)

variable {host config s} {calls : List EngineCall} {filters : Filters PredicateSpec}
  {sink : String}

theorem streamsAfter_append_singleton (calls : List EngineCall) (call : EngineCall) :
    streamsAfter host config s (calls ++ [call]) =
      (call.step host (run host { config } s calls).1 (run host { config } s calls).2).1.streams := by
  rw [streamsAfter, run_append]
  rfl

theorem streamsAfter_updateRoute (calls : List EngineCall) (route : String) :
    streamsAfter host config s (calls ++ [.updateRoute route]) =
      (streamsAfter host config s calls).updateRoute route :=
  streamsAfter_append_singleton ..

theorem grows_append_singleton (host : ModuleHost σ) (config : EngineConfig) (s : σ)
    (calls : List EngineCall) (hr : call.route? = none) :
    StreamRules.Grows (streamsAfter host config s calls).standings
      (streamsAfter host config s (calls ++ [call])).standings := by
  rw [streamsAfter_append_singleton]
  exact grows_of_no_route hr (run_compiled host config s calls) _

theorem mem_filterSets_append_singleton (h : filters ∈ filterSetsAfter host config s calls)
    (call : EngineCall) : filters ∈ filterSetsAfter host config s (calls ++ [call]) := by
  cases hr : call.route? with
  | none =>
    have ⟨new, hs, _⟩ := grows_append_singleton host config s calls hr
    unfold filterSetsAfter at h ⊢
    rw [← StreamRules.standings_filters] at h ⊢
    rw [hs, List.map_append]
    exact List.mem_append_left _ h
  | some route =>
    obtain rfl := route?_eq_some.1 hr
    rwa [filterSetsAfter, streamsAfter_updateRoute, StreamRules.updateRoute_filterSets]

-- No call takes a rule away.
theorem mem_filterSets_append (h : filters ∈ filterSetsAfter host config s calls)
    (after : List EngineCall) : filters ∈ filterSetsAfter host config s (calls ++ after) := by
  induction after using List.reverseRecOn with
  | nil => rwa [List.append_nil]
  | append_singleton after call hi =>
    rw [← List.append_assoc]
    exact mem_filterSets_append_singleton hi call

-- So a rule that is there was added at some time.
theorem mem_filterSets_iff : filters ∈ filterSetsAfter host config s calls ↔
    ∃ before call after, calls = before ++ call :: after ∧
      FirstAdds host config s before call filters := by
  constructor
  case mp =>
    intro h
    induction calls using List.reverseRecOn with
    | nil => cases h
    | append_singleton calls call hi =>
      by_cases hm : filters ∈ filterSetsAfter host config s calls
      case pos =>
        have ⟨before, first, after, hc, hf⟩ := hi hm
        exact ⟨before, first, after ++ [call], by simp [hc], hf⟩
      case neg => exact ⟨calls, call, [], rfl, hm, h⟩
  case mpr =>
    rintro ⟨before, call, after, rfl, hf⟩
    have h := mem_filterSets_append hf.present after
    rwa [List.append_assoc] at h

theorem RoutedSince.mem_filterSets (h : RoutedSince host config s calls filters sink) :
    filters ∈ filterSetsAfter host config s calls := by
  have ⟨before, call, after, _, hc, hf, _⟩ := h.since
  exact mem_filterSets_iff.2 ⟨before, call, after, hc, hf⟩

theorem routedSince_append_of_no_route (hr : call.route? = none) :
    RoutedSince host config s (calls ++ [call]) filters sink ↔
      RoutedSince host config s calls filters sink := by
  have hl : (calls ++ [call]).filterMap route? = calls.filterMap route? := by simp [hr]
  have hn : ∀ route, .updateRoute route ≠ call := by
    rintro route rfl
    cases hr
  constructor
  case mp =>
    rintro ⟨⟨before, first, after, route, hc, hf, hm⟩, hs⟩
    refine ⟨?_, hl ▸ hs⟩
    rcases append_singleton_eq_cut_iff.1 hc with ⟨_, _, rfl⟩ | ⟨after', rfl, hc'⟩
    case inl => cases hm
    case inr =>
      have hm' : .updateRoute route ∈ after' := by simpa [hn] using hm
      exact ⟨before, first, after', route, hc', hf, hm'⟩
  case mpr =>
    rintro ⟨⟨before, first, after, route, hc, hf, hm⟩, hs⟩
    exact ⟨⟨before, first, after ++ [call], route, by simp [hc], hf, by simp [hm]⟩, hl ▸ hs⟩

theorem routedSince_append_route {route : String} :
    RoutedSince host config s (calls ++ [.updateRoute route]) filters sink ↔
      filters ∈ filterSetsAfter host config s calls ∧ route = sink := by
  have hl : ((calls ++ [updateRoute route]).filterMap route?).getLast? = some route := by
    simp [route?]
  constructor
  case mp =>
    rintro ⟨⟨before, first, after, _, hc, hf, hm⟩, hs⟩
    refine ⟨?_, Option.some.inj (hl ▸ hs)⟩
    rcases append_singleton_eq_cut_iff.1 hc with ⟨_, _, rfl⟩ | ⟨after', _, hc'⟩
    case inl => cases hm
    case inr => exact mem_filterSets_iff.2 ⟨before, first, after', hc', hf⟩
  case mpr =>
    rintro ⟨hm, rfl⟩
    have ⟨before, first, after, hc, hf⟩ := mem_filterSets_iff.1 hm
    exact ⟨⟨before, first, after ++ [.updateRoute route], route, by simp [hc], hf, by simp⟩, hl⟩

theorem standingsFollow_of_no_route (hr : call.route? = none)
    (h : StandingsFollow host config s calls) : StandingsFollow host config s (calls ++ [call]) := by
  have ⟨new, hs, hn⟩ := grows_append_singleton host config s calls hr
  unfold StandingsFollow
  rw [hs, List.forall_mem_append]
  constructor
  case left =>
    exact fun x hx => (h x hx).congr fun sink => (routedSince_append_of_no_route hr).symm
  case right =>
    intro x hx
    have ⟨ha, hw⟩ := hn x hx
    rw [StreamRules.standings_filters] at ha
    exact hw.follows fun sink h => ha ((routedSince_append_of_no_route hr).1 h).mem_filterSets

theorem standingsFollow_of_route (h : StandingsFollow host config s calls) (route : String) :
    StandingsFollow host config s (calls ++ [.updateRoute route]) := by
  unfold StandingsFollow
  rw [streamsAfter_updateRoute, StreamRules.standings, StreamRules.updateRoute, List.map_map,
    List.forall_mem_map]
  intro r hm
  have hf : (r.follow route).standing.Follows (route = ·) :=
    (h r.standing (List.mem_map_of_mem hm)).follow route
  refine hf.congr fun sink => ?_
  change route = sink ↔ RoutedSince host config s _ (r.follow route).filterSet sink
  rw [Rule.filterSet_follow, routedSince_append_route]
  exact (and_iff_right (List.mem_map_of_mem hm)).symm

theorem standingsFollow (host : ModuleHost σ) (config : EngineConfig) (s : σ)
    (calls : List EngineCall) : StandingsFollow host config s calls := by
  induction calls using List.reverseRecOn with
  | nil => exact fun _ => nofun
  | append_singleton calls call hi =>
    cases hr : call.route? with
    | none       => exact standingsFollow_of_no_route hr hi
    | some route => exact route?_eq_some.1 hr ▸ standingsFollow_of_route hi route

end Runs

theorem run_sound (host : ModuleHost σ) (config : EngineConfig) (s : σ) (calls : List EngineCall) :
    (streamsAfter host config s calls).Sound := by
  refine run_induction (P := (·.streams.Sound)) .empty ?_ ..
  intro _ host c s call hl h
  rw [step_streams hl]
  cases call.streamCall? c.vars with
  | none    => exact h
  | some sc => exact h.step sc

-- After any run:
-- 1. rules are known by their filters, and active if the last route since they were first there
--    went to their sink
-- 2. a rule that is redefined stays as active as it is
-- 3. all active rules have the same sink
-- 4. of two routes in a row only the last one counts
theorem activity_of_run (host : ModuleHost σ) (config : EngineConfig) (s : σ)
    (calls : List EngineCall) :
    let c := (run host { config } s calls).1
    ((c.streams.rules.map Rule.filterSet).Nodup ∧ ∀ r ∈ c.streams.rules,
      r.standing.Follows (RoutedSince host config s calls r.filterSet)) ∧
    (∀ d c', c.addStream d = .ok (.updated, c') → c'.streams.standings = c.streams.standings) ∧
    (∀ r ∈ c.streams.rules, ∀ r' ∈ c.streams.rules,
      r.activity = .active → r'.activity = .active → r.filters.sink = r'.filters.sink) ∧
    ∀ route route', (c.updateRoute route).updateRoute route' = c.updateRoute route' := by
  intro c
  have hf := List.forall_mem_map.1 (standingsFollow host config s calls)
  have hs : c.streams.Sound := run_sound host config s calls
  refine ⟨⟨hs.distinct, hf⟩, fun d c' h => ?_, fun r hr r' hr' ha ha' => ?_, fun route route' => ?_⟩
  · obtain ⟨_, ha, hc⟩ := Except.map_eq_ok.1 h
    cases hc
    have he := StreamRules.effect_step hs.compiled (.add (c.vars.inStream d))
    have hu : (c.streams.step (.add (c.vars.inStream d))).1 = .change .updated :=
      congrArg StreamAnswer.ofResult ha
    exact (hu ▸ he).standings_of_updated
  · obtain ⟨sink, hk, hr⟩ := (hf r hr).active.1 ha
    obtain ⟨sink', hk', hr'⟩ := (hf r' hr').active.1 ha'
    have he : sink = sink' := Option.some.inj (hr.last.symm.trans hr'.last)
    exact hk.trans (he ▸ hk'.symm)
  · exact congrArg (fun streams => { c with streams }) (c.streams.updateRoute_updateRoute ..)

end EngineCall

end AudioRules

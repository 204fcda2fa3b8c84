import AudioRules.CommandLine.Check
import AudioRules.Proofs.CommandLine.Files
import AudioRules.Proofs.RuleSet.AppIds

namespace AudioRules

namespace RuleSet

theorem size_groupTable (r : RuleSet) :
    r.groupTable.size = (r.groups.map (·.name)).dedup.length := by
  rw [groupTable, KeyMap.size_ofList, List.map_map]
  rfl

theorem size_groupTable_eq_iff (r : RuleSet) :
    r.groupTable.size = r.groups.length ↔ (r.groups.map (·.name)).Nodup := by
  have h := KeyMap.size_ofList_eq_length_iff (r.groups.map fun g => (g.name, sinkState g))
  rwa [List.length_map, List.map_map] at h

-- Of registrations for the same application id the last one counts.
theorem size_build_appIds (r : RuleSet) : r.build.1.appIds.size =
    ((r.appIds.filterMap (·.registration?)).map Prod.fst).dedup.length := by
  have hc := Classifier.compiled_of_no_rules r.engine .empty {}
  rw [build, apply_appIds hc, KeyMap.empty_merge, KeyMap.size_ofList]

-- What is said of the entries when the rule set is installed in a new engine.
def buildVerdicts (r : RuleSet) : List Verdict := r.verdicts { config := r.engine }

def buildRejections (r : RuleSet) : List Rejection := r.buildVerdicts.filterMap (·.rejection?)

theorem buildVerdicts_entries (r : RuleSet) : r.buildVerdicts.map (·.entry) = r.entries :=
  Entry.verdicts_entries ..

theorem build_rejected (r : RuleSet) : r.build.2.rejected = r.buildRejections := by
  rw [build, apply_eq_verdicts]
  rfl

theorem build_applied_add_rejected (r : RuleSet) :
    r.build.2.applied + r.build.2.rejected.length = r.entries.length := by
  rw [build, apply_eq_verdicts, Verdict.report, Verdict.accepted_add_rejections, verdicts_length]

end RuleSet

theorem Outcome.exit_eq_zero_iff {o : Outcome} : o.exit = 0 ↔ o.failure = none := by
  cases h : o.failure <;> simp [exit, h]

namespace Check

theorem run_of_rules {m : Machine τ} (h : m.rules path = .ok rules) :
    run m path = report path rules := by
  rw [run, h]

theorem failure?_eq_none_iff {r : LoadReport} : failure? r = none ↔ r.rejected = [] := by
  rw [← List.isEmpty_iff, ← LoadReport.isClean, failure?]
  split <;> simp [*]

theorem exit_report (path : String) (rules : RuleSet) :
    (report path rules).exit = 0 ↔ rules.build.2.rejected = [] := by
  rw [Outcome.exit_eq_zero_iff, ← failure?_eq_none_iff]
  rfl

theorem stdout_report (path : String) (rules : RuleSet) : (report path rules).stdout =
    s!"Rule set: {path}" :: "" :: contents rules rules.build.1 ++ "" :: verdict rules.build.2 := by
  simp only [report, Outcome.stdout, List.filterMap_append, Line.filterMap_logged,
    Line.filterMap_printed, List.nil_append]

-- For a document that can be read:
-- 1. the lines show what the tables have, how many entries became rules, and each rejection
-- 2. every entry is either applied or rejected, in the order of the document
-- 3. the exit is a success if and only if nothing is rejected
-- 4. there are as many application ids as different ones are registered
-- 5. there are as many groups as different names, so as many as are printed if and only if no name
--    comes twice
theorem contents_of_tables {m : Machine τ} (h : m.rules path = .ok rules) :
    let c := rules.build.1
    let rejections := rules.buildRejections
    ∃ applied,
      (run m path).stdout =
        [s!"Rule set: {path}",
         "",
         "  sink types:   " ++ " ".intercalate c.sinks.types,
         "  source types: " ++ " ".intercalate c.sources.types,
         "  card types:   " ++ " ".intercalate c.cards.types,
         s!"  stream rules: {c.streams.rules.length}",
         s!"  app ids:      {c.appIds.size}",
         s!"  groups:       {rules.groups.length}",
         "",
         s!"{applied} rules applied, {rejections.length} rejected"] ++
          rejections.map ("  " ++ ·.text) ∧
      rules.buildVerdicts.map (·.entry) = rules.entries ∧
      applied + rejections.length = rules.sinks.length + rules.sources.length +
        rules.cards.length + rules.streams.length + rules.appIds.length ∧
      ((run m path).exit = 0 ↔ rejections = []) ∧
      c.appIds.size = ((rules.appIds.filterMap (·.registration?)).map Prod.fst).dedup.length ∧
      rules.groupTable.size = (rules.groups.map (·.name)).dedup.length ∧
      (rules.groupTable.size = rules.groups.length ↔ (rules.groups.map (·.name)).Nodup) := by
  intro c rejections
  have hr : rules.build.2.rejected = rejections := rules.build_rejected
  have ha := rules.build_applied_add_rejected
  have hl : rules.entries.length = rules.sinks.length + rules.sources.length +
      rules.cards.length + rules.streams.length + rules.appIds.length := by
    simp [RuleSet.entries, Nat.add_assoc]
  refine ⟨rules.build.2.applied, ?_, rules.buildVerdicts_entries, ?_, ?_, rules.size_build_appIds,
    rules.size_groupTable, rules.size_groupTable_eq_iff⟩
  · rw [run_of_rules h, stdout_report, ← hr]
    rfl
  · rw [← hl, ← ha, hr]
  · rw [run_of_rules h, exit_report, hr]

-- One name for two groups.
def sameName : RuleSet where
  groups := [{ name := "media" }, { name := "media", dynamic := true }]

def sameNameFiles : List (String × List String) := [
  ("rules.json", [
    "\x7b\"groups\":[\x7b\"name\":\"media\"\x7d,",
    "\x7b\"name\":\"media\",\"dynamic\":true\x7d]\x7d"])]

theorem rules_sameName : (Machine.ofFiles sameNameFiles).rules "rules.json" = .ok sameName :=
  Machine.rules_ofFiles rfl (by decide +kernel) (by decide +kernel)

theorem contents_of_same_name :
    (Machine.ofFiles sameNameFiles).rules "rules.json" = .ok sameName ∧
      (run (.ofFiles sameNameFiles) "rules.json").exit = 0 := by
  have h := rules_sameName
  have ⟨_, _, _, _, he, _⟩ := contents_of_tables h
  exact ⟨h, he.2 (by decide +kernel)⟩

-- The table has one group then.
theorem groups_not_counted_in_table :
    ¬∀ (m : Machine Unit) path rules, m.rules path = .ok rules →
      s!"  groups:       {rules.groupTable.size}" ∈ (run m path).stdout := by
  intro h
  have hm := h (.ofFiles sameNameFiles) "rules.json" sameName rules_sameName
  rw [run_of_rules rules_sameName, stdout_report] at hm
  exact absurd hm (by decide +kernel)

end Check

end AudioRules

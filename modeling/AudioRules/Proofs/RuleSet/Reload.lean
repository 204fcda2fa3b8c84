import AudioRules.Proofs.KeyMap
import AudioRules.Proofs.RuleSet.Item
import AudioRules.Proofs.RuleSet.Verdict

namespace AudioRules

namespace Item

@[simp]
theorem put_vars (i : Item) (c : Classifier) : (i.put c).vars = c.vars := by
  cases i
  case device d _ _ => cases d <;> rfl
  all_goals rfl

@[simp]
theorem putAll_vars (is : List Item) (c : Classifier) : (writes.putAll is c).vars = c.vars := by
  induction is generalizing c with
  | nil          => rfl
  | cons i is hi => exact (hi _).trans (i.put_vars c)

end Item

namespace Entry

-- What is said of an entry under variables, whatever the state.
def verdictIn (vars : Variables) (e : Entry) : Verdict where
  entry  := e
  error? := (e.item vars).error?

def items (vars : Variables) (es : List Entry) : List Item :=
  es.filterMap fun e => (e.item vars).toOption

variable {c : Classifier}

theorem verdict_eq (h : c.Compiled) (e : Entry) : e.verdict c = e.verdictIn c.vars := by
  simp only [verdict, verdictIn, e.install_eq h]
  cases e.item c.vars <;> rfl

theorem installed_eq (h : c.Compiled) (e : Entry) :
    e.installed c = (e.item c.vars).toOption.elim c (Item.put c) := by
  rw [installed, e.install_eq h]
  cases e.item c.vars <;> rfl

theorem installed_compiled (h : c.Compiled) (e : Entry) : (e.installed c).Compiled := by
  have hr := e.apply_registered c {}
  rw [apply_eq_verdict] at hr
  exact hr.preserves_compiled h

theorem installed_vars (h : c.Compiled) (e : Entry) : (e.installed c).vars = c.vars := by
  rw [e.installed_eq h]
  cases e.item c.vars with
  | error => rfl
  | ok i  => exact i.put_vars c

theorem verdicts_eq (h : c.Compiled) (es : List Entry) :
    verdicts c es = es.map (verdictIn c.vars) := by
  induction es generalizing c with
  | nil => rfl
  | cons e es hi =>
    rw [verdicts, e.verdict_eq h, hi (e.installed_compiled h), e.installed_vars h, List.map_cons]

theorem installedAll_eq (h : c.Compiled) (es : List Entry) :
    installedAll c es = Item.writes.putAll (items c.vars es) c := by
  induction es generalizing c with
  | nil => rfl
  | cons e es hi =>
    have hi := hi (e.installed_compiled h)
    rw [e.installed_vars h] at hi
    rw [installedAll, List.foldl_cons, ← installedAll, hi, e.installed_eq h]
    cases he : e.item c.vars with
    | error => simp [items, he, Except.toOption]
    | ok i  => simp [items, he, Except.toOption, Writes.putAll, Item.writes]

end Entry

namespace RuleSet

theorem declare_eq (r : RuleSet) (c : Classifier) :
    r.declare c = { c with vars := c.vars.merge r.vars } := by
  unfold declare KeyMap.merge
  generalize r.vars.entries = vs
  induction vs generalizing c with
  | nil          => rfl
  | cons v vs hi => exact hi (c.setVariable v.1 v.2)

theorem declare_of_vars {r : RuleSet} {c c' : Classifier} (h : c'.vars = (r.declare c).vars) :
    r.declare c' = c' := by
  have hm : c'.vars.merge r.vars = c'.vars := by rw [h, declare_eq, KeyMap.merge_merge_self]
  rw [declare_eq, hm]

theorem apply_eq (h : c.Compiled) (r : RuleSet) : r.apply c =
    (Item.writes.putAll (Entry.items (r.declare c).vars r.entries) (r.declare c),
      Verdict.report (r.entries.map (Entry.verdictIn (r.declare c).vars))) := by
  have hd := (r.declare_registered c).preserves_compiled h
  rw [apply_eq_verdicts, verdicts, Entry.installedAll_eq hd, Entry.verdicts_eq hd]

theorem apply_apply_of_compiled (h : c.Compiled) (r : RuleSet) :
    r.apply (r.apply c).1 = r.apply c := by
  have hc := (r.apply_registered c).preserves_compiled h
  rw [apply_eq h r] at hc ⊢
  rw [apply_eq hc r, declare_of_vars (Item.putAll_vars ..), Item.putAll_vars, Writes.putAll_putAll]

theorem apply_idempotent (host : ModuleHost σ) (config : EngineConfig) (s : σ)
    (calls : List EngineCall) (r : RuleSet) :
    let c := (EngineCall.run host { config } s calls).1
    r.apply (r.apply c).1 = r.apply c :=
  apply_apply_of_compiled (EngineCall.run_compiled host config s calls) r

end RuleSet

end AudioRules

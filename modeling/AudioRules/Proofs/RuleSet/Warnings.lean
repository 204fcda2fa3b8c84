import AudioRules.Proofs.RuleSet.Verdict
import AudioRules.Warning

namespace AudioRules

open Verdict

theorem FlagSet.rejections_warningsIn (vars : Variables) (rules : String) (known : Names)
    (names : List String) :
    (warningsIn vars rules known names).filterMap Warning.rejection? = [] := by
  simp [warningsIn, List.filterMap_map, Function.comp_def, Warning.rejection?]

theorem DeviceEntry.rejections_warnings (vars : Variables) (e : DeviceEntry) :
    (e.warnings vars).filterMap Warning.rejection? = [] := by
  unfold DeviceEntry.warnings
  split
  case h_1 => exact FlagSet.rejections_warningsIn vars "device" DeviceFlag.names e.flags
  case h_2 => rfl

theorem CardEntry.rejections_warnings (vars : Variables) (e : CardEntry) :
    (e.warnings vars).filterMap Warning.rejection? = [] := by
  simp [CardEntry.warnings, List.filterMap_flatMap, FlagSet.rejections_warningsIn]

theorem StreamEntry.rejections_warnings (vars : Variables) (e : StreamEntry) :
    (e.warnings vars).filterMap Warning.rejection? = [] := by
  unfold StreamEntry.warnings
  split
  case h_1 => exact FlagSet.rejections_warningsIn vars "stream" StreamFlag.names e.flags
  case h_2 => rfl

namespace Entry

theorem rejections_readWarnings (vars : Variables) (e : Entry) :
    (e.readWarnings vars).filterMap Warning.rejection? = [] := by
  cases e
  case device d e => exact e.rejections_warnings vars
  case card e     => exact e.rejections_warnings vars
  case stream e   => exact e.rejections_warnings vars
  case appId e    => rfl

theorem rejections_tableWarnings (c : Classifier) (e : Entry) :
    (e.tableWarnings c).filterMap Warning.rejection? = [] := by
  unfold tableWarnings
  cases e <;> dsimp only <;> split <;> rfl

theorem rejections_warnings (c : Classifier) (e : Entry) :
    (e.warnings c).filterMap Warning.rejection? = rejections [e.verdict c] := by
  rw [warnings, List.filterMap_append, List.filterMap_append, rejections_readWarnings,
    rejections_tableWarnings, apply_eq_verdict]
  simp [List.filterMap_map, Function.comp_def, Warning.rejection?]

theorem rejections_warningsAll (c : Classifier) (es : List Entry) :
    (warningsAll c es).filterMap Warning.rejection? = rejections (verdicts c es) := by
  induction es generalizing c with
  | nil => rfl
  | cons e es hi =>
    have hstate : (e.apply c {}).1 = e.installed c := by rw [apply_eq_verdict]
    rw [warningsAll, List.filterMap_append, rejections_warnings, hstate, hi, verdicts]
    simp only [rejections, ← List.filterMap_append, List.singleton_append]

end Entry

-- Whatever a report says is rejected is logged as well, in the same order.
theorem RuleSet.rejections_warnings (r : RuleSet) (c : Classifier) :
    (r.warnings c).filterMap Warning.rejection? = (r.apply c).2.rejected := by
  rw [warnings, Entry.rejections_warningsAll, apply_eq_verdicts]
  rfl

end AudioRules

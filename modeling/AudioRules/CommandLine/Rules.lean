import AudioRules.CommandLine.Machine
import AudioRules.RuleSet.Apply
import AudioRules.RuleSet.Document

namespace AudioRules

namespace Machine

def rules (m : Machine τ) (path : String) : Except Failure RuleSet := do
  match RuleSet.read? (← m.readText path) with
  | some rules => return rules
  | none       => throw .unreadable

end Machine

namespace LoadReport

def rejections (r : LoadReport) : List String := r.rejected.map fun r => "rejected " ++ r.text

end LoadReport

end AudioRules

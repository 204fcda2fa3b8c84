import AudioRules.CommandLine.Rules

namespace AudioRules

namespace Check

-- What ended up in the tables.
def contents (rules : RuleSet) (c : Classifier) : List String :=
  ["  sink types:   " ++ " ".intercalate c.sinks.types,
   "  source types: " ++ " ".intercalate c.sources.types,
   "  card types:   " ++ " ".intercalate c.cards.types,
   s!"  stream rules: {c.streams.rules.length}",
   s!"  app ids:      {c.appIds.size}",
   s!"  groups:       {rules.groups.length}"]

def verdict (r : LoadReport) : List String :=
  s!"{r.applied} rules applied, {r.rejected.length} rejected" ::
    r.rejected.map fun rejection => "  " ++ rejection.text

def failure? (r : LoadReport) : Option Failure :=
  if r.isClean then none else some (.complaint s!"{r.rejected.length} rules rejected")

def report (path : String) (rules : RuleSet) : Outcome :=
  let (c, r) := rules.build
  let lines := s!"Rule set: {path}" :: "" :: contents rules c ++ "" :: verdict r
  { output := rules.buildWarnings.map .logged ++ lines.map .printed, failure := failure? r }

def run (m : Machine τ) (path : String) : Outcome :=
  match m.rules path with
  | .ok rules      => report path rules
  | .error failure => { failure }

end Check

end AudioRules

import AudioRules.Json.Basic
import AudioRules.RuleSet.Apply

namespace AudioRules

-- What is logged as a warning, with all that is logged of it. Nothing below a warning is logged
-- unless it is asked for, and it is left out here.
inductive Warning
  -- a flag that no rule of a section can have
  | invalidFlag (rules name : String)
  -- a definition that its table does not take
  | deviceRefused (d : Direction) (label : String) (error : RuleError)
  | cardRefused (label : String) (error : RuleError)
  | streamRefused (group : String) (error : RuleError)
  | appIdRefused (id : String) (error : MatchError)
  -- an entry of a rule set of which nothing comes
  | rejected (r : Rejection)
  | namelessNode (node : Json)
  | loadFailed (d : Direction) (error : ModuleError)
  | updateFailed (d : Direction) (label : String) (error : ModuleError)
  -- of a stream without a client
  | appIdIgnored
deriving Repr

namespace Warning

def message : Warning → String
  | invalidFlag ..         => "invalid flag"
  | deviceRefused ..       => "device rule rejected"
  | cardRefused ..         => "card rule rejected"
  | streamRefused ..       => "stream rule rejected"
  | appIdRefused ..        => "app id rejected"
  | rejected ..            => "rule rejected"
  | namelessNode ..        => "audio node without a name"
  | loadFailed ..          => "module load failed"
  | updateFailed _ _ error => s!"Failed to update module: {error.message}"
  | appIdIgnored           => "--app-id is ignored for client-less streams"

def rejection? : Warning → Option Rejection
  | rejected r => some r
  | _          => none

end Warning

-- Loading a rule set

def FlagSet.warningsIn (vars : Variables) (rules : String) (known : Names) (names : List String) :
    List Warning :=
  let names := names.map fun name => Text.trim (vars.resolve name)
  (names.filter fun name => name != "" && (known.lookup name).isNone).map (.invalidFlag rules)

def DeviceEntry.warnings (vars : Variables) (e : DeviceEntry) : List Warning :=
  match PredicateSpec.parse e.predicate with
  | .ok _    => FlagSet.warningsIn vars "device" DeviceFlag.names e.flags
  | .error _ => []

-- No slot is looked at after one whose predicate cannot be read.
def CardEntry.warnings (vars : Variables) (e : CardEntry) : List Warning :=
  let slots := e.slots.takeWhile fun s => (PredicateSpec.parse s.predicate).isOk
  slots.flatMap fun s => FlagSet.warningsIn vars "card" CardFlag.names s.flags

def StreamEntry.warnings (vars : Variables) (e : StreamEntry) : List Warning :=
  match PredicateSpec.parseOpt e.predicate with
  | .ok _    => FlagSet.warningsIn vars "stream" StreamFlag.names e.flags
  | .error _ => []

namespace Entry

-- While the entry is taken apart.
def readWarnings (vars : Variables) : Entry → List Warning
  | device _ e => e.warnings vars
  | card e     => e.warnings vars
  | stream e   => e.warnings vars
  | appId _    => []

-- By the table that refuses the definition, if it comes to that. Labels are those that the variables
-- stand for.
def tableWarnings (c : Classifier) : Entry → List Warning
  | device d e =>
    match (e.toDef c.vars).map fun rule => (rule, (c.enlistDevice d rule).1) with
    | .ok (rule, .error error) => [.deviceRefused d (c.vars.resolve rule.label) error]
    | _                        => []
  | card e =>
    match (e.toDef c.vars).map fun rule => (rule, (c.enlistCard rule).1) with
    | .ok (rule, .error error) => [.cardRefused (c.vars.resolve rule.label) error]
    | _                        => []
  | stream e =>
    match (e.toDef c.vars).map fun rule => (rule, (c.enlistStream rule).1) with
    | .ok (rule, .error error) => [.streamRefused (c.vars.resolve rule.group) error]
    | _                        => []
  | appId e =>
    match (PredicateSpec.parseOpt e.predicate).map (c.enlistAppId e.appId · e.group |>.1) with
    | .ok (.error error) => [.appIdRefused e.appId error]
    | _                  => []

def warnings (c : Classifier) (e : Entry) : List Warning :=
  e.readWarnings c.vars ++ e.tableWarnings c ++
    ((e.apply c {}).2.rejected.map Warning.rejected)

def warningsAll (c : Classifier) : List Entry → List Warning
  | []      => []
  | e :: es => e.warnings c ++ warningsAll (e.apply c {}).1 es

end Entry

namespace RuleSet

def warnings (r : RuleSet) (c : Classifier) : List Warning :=
  Entry.warningsAll (r.declare c) r.entries

def buildWarnings (r : RuleSet) : List Warning := r.warnings { config := r.engine }

end RuleSet

end AudioRules

import AudioRules.CommandLine.Arguments
import AudioRules.CommandLine.Rules

namespace AudioRules

namespace StreamDescription

def clientInfo (s : StreamDescription) : Option ClientInfo :=
  s.client.map fun name => { name, appId := s.appId, uid := s.uid, exe := s.exe }

-- A property is written `key=value`.
def setProperty (properties : Proplist) (text : String) : Except Failure Proplist :=
  match Text.cut? '=' text with
  | some (key, value) => .ok (properties.insert key value)
  | none => .error (.complaint s!"Invalid property '{text}', expected key=value")

-- Without a client, the program of the stream is a property of it.
def properties (s : StreamDescription) : Except Failure Proplist := do
  let given ← s.props.foldlM setProperty .empty
  match s.client, s.exe with
  | none, some exe => return given.insert "application.process.binary" exe
  | _, _           => return given

-- An application id without a client is not used.
def warnings (s : StreamDescription) : List Warning :=
  if s.client = none ∧ s.appId ≠ none then [.appIdIgnored] else []

end StreamDescription

namespace Group

def routed (c : Classifier) (route : Option String) : Classifier := route.elim c c.updateRoute

def propertiesLine (properties : Proplist) : String :=
  "properties: " ++ " ".intercalate (properties.entries.map fun (k, v) => k ++ "=" ++ v)

def report (resolved : StreamGroup) (properties : Proplist) : List String :=
  ["group:  " ++ resolved.group,
   "flags:  " ++ StreamFlag.report resolved.flags,
   "origin: " ++ resolved.origin.name] ++
    if properties.isEmpty then [] else [propertiesLine properties]

def resolve (rules : RuleSet) (s : StreamDescription) (properties : Proplist) :
    StreamGroup × Proplist :=
  (routed rules.build.1 s.route).resolveGroup s.clientInfo properties (.table rules.groupTable)

def run (m : Machine τ) (path : String) (s : StreamDescription) : Outcome :=
  match m.rules path with
  | .error failure => { failure }
  | .ok rules =>
    let loading := rules.buildWarnings
    let stderr := rules.build.2.rejections
    match s.properties with
    | .error failure => { output := loading.map .logged, stderr, failure }
    | .ok properties =>
      let (resolved, properties) := resolve rules s properties
      let lines := report resolved properties
      { output := (loading ++ s.warnings).map .logged ++ lines.map .printed, stderr }

end Group

end AudioRules

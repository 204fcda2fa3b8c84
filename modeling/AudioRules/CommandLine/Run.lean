import AudioRules.CommandLine.Check
import AudioRules.CommandLine.Classify
import AudioRules.CommandLine.Group

namespace AudioRules

namespace CommandLine

def versionLine : String := "audio-policy 0.1.0"

def usage : List String :=
  ["Usage: audio-policy [--rules PATH] COMMAND",
   "",
   "  check",
   "  classify [--dump PATH] [--reclassify] [--load-modules [--dry-run]]",
   "  group [--app-id ID] [--client NAME] [--uid UID] [--exe NAME] [--prop KEY=VALUE]...",
   "        [--route SINK]",
   "",
   "  help, --help, --version"]

def defaultRules (configDirectory : String) : String :=
  configDirectory ++ "/audio-policy/rules.json"

-- All that a run leaves behind.
structure Result where
  exit   : Nat
  stdout : List String := []
  stderr : List String := []
  runs   : List (List String) := []
deriving DecidableEq, Repr

def Result.ofOutcome (log : Warning → List String) (o : Outcome) : Result where
  exit   := o.exit
  stdout := o.shown log
  stderr := o.errors
  runs   := o.runs

def runCommand (m : Machine τ) (rules : String) : Command → Outcome
  | .check            => Check.run m rules
  | .classify options => Classify.run m rules options
  | .group stream     => Group.run m rules stream

def run (m : Machine τ) (args : List String) : Result :=
  match parse? args with
  | none          => { exit := 2, stderr := usage }
  | some .help    => { exit := 0, stdout := usage }
  | some .version => { exit := 0, stdout := [versionLine] }
  | some (.run rules command) =>
    .ofOutcome m.log (runCommand m (rules.getD (defaultRules m.configDirectory)) command)

end CommandLine

end AudioRules

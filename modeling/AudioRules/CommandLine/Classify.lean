import AudioRules.CommandLine.Arguments
import AudioRules.CommandLine.Rules
import AudioRules.Module.Pactl
import AudioRules.Snapshot

namespace AudioRules

namespace Snapshot

def devices (s : Snapshot) : Direction → List DeviceNode
  | .sink   => s.sinks
  | .source => s.sources

-- A node that has properties, but no name.
def isNameless (j : Json) : Bool :=
  string? j "type" == some "PipeWire:Interface:Node" &&
    (props? j).any fun props => (propString? props "node.name").isNone

end Snapshot

namespace Machine

-- The dump that is asked for, or a new one.
def dumpFrom (m : Machine τ) : Option String → Except Failure String
  | some path => m.readText path
  | none      => m.dumpText

def snapshot (m : Machine τ) (dump : Option String) : Except Failure Snapshot := do
  (Snapshot.parse (← m.dumpFrom dump)).mapError fun _ => .unreadable

-- What is logged while a dump is read.
def snapshotWarnings (m : Machine τ) (dump : Option String) : List Warning :=
  match (m.dumpFrom dump).toOption.bind Json.read? with
  | some (.array objects) => (objects.filter Snapshot.isNameless).map .namelessNode
  | _                     => []

end Machine

namespace Classify

def typesOf (c : Classifier) (n : DeviceNode) : List String :=
  (c.devices n.direction).classify n.object .none .none

-- The first type of the first running device that has one, and the name of that device.
def active? (c : Classifier) (devices : List DeviceNode) : Option (String × String) :=
  (devices.filter (·.isRunning)).findSome? fun n =>
    (typesOf c n).head?.map fun type => (type, n.name)

-- With the route to the active sink.
def routed (c : Classifier) (s : Snapshot) : Classifier :=
  match active? c s.sinks with
  | some (_, sink) => c.updateRoute sink
  | none           => c

-- Helper modules

-- What is said of bringing a module in line.
def updateLines (d : Direction) (type device : String) :
    Except ModuleError (Option ModuleIndex) → List Line
  | .ok (some index) => [.printed s!"{d.name} {device} ({type}): module {index.toNat}"]
  | .ok none         => []
  | .error e         => [.logged (.loadFailed d e), .logged (.updateFailed d type e)]

-- Loads the module of the active type of a direction, and tells which it is. What the host has
-- printed comes first. No module is tracked before, so none is unloaded.
def loadModule (s : Snapshot) (host : ModuleHost (PactlSession τ)) (d : Direction)
    (c : Classifier) (session : PactlSession τ) : Classifier × PactlSession τ × List Line :=
  match active? c (s.devices d) with
  | none => (c, session, [])
  | some (type, device) =>
    let (_, c, session) := c.reconcileModules d type host session
    let (result, c, session) := c.updateModule d type host session
    (c, { session with printed := [] },
      session.printed.map .printed ++ updateLines d type device result)

def loadModules (s : Snapshot) (host : ModuleHost (PactlSession τ)) (c : Classifier)
    (session : PactlSession τ) : Classifier × PactlSession τ × List Line :=
  Direction.all.foldl (fun (c, session, lines) d =>
    let (c, session, more) := loadModule s host d c session
    (c, session, lines ++ more)) (c, session, [])

-- The session in which modules are loaded, if they are, and what is written meanwhile.
def session (m : Machine τ) (options : ClassifyOptions) (s : Snapshot) (c : Classifier) :
    Classifier × PactlSession τ × List Line :=
  let start : PactlSession τ := { state := m.state }
  if options.loadModules then
    loadModules s (if options.dryRun then Pactl.dryRun else Pactl.host m.pactl) c start
  else
    (c, start, [])

-- Reports

def portLine? (c : Classifier) (n : DeviceNode) (type : String) : Option String := do
  let data ← (c.devices n.direction).portTypeof? n.object type
  let port ← data.findPort? n.object
  return s!"      {type} -> port {port.name}"

def deviceLines (c : Classifier) (n : DeviceNode) : List String :=
  let types := typesOf c n
  let running := if n.isRunning then " (running)" else ""
  ("  " ++ n.name ++ running ++ ": " ++ " ".intercalate types) :: types.filterMap (portLine? c n)

def profileLine? (c : Classifier) (n : CardNode) (type : String) : Option String :=
  (c.cards.typeof? n.object type).map fun (slot, priority) =>
    let profile := slot.profile.getD "<current>"
    s!"      {type} -> profile {profile} (priority {priority})"

def cardLines (c : Classifier) (reclassify : Bool) (n : CardNode) : List String :=
  let types := c.cards.classify n.object n.profiles .none .none reclassify
  ("  " ++ n.name ++ ": " ++ " ".intercalate types) :: types.filterMap (profileLine? c n)

def groupOf (c : Classifier) (groups : GroupDirectory) (n : StreamNode) : StreamGroup :=
  (c.resolveGroup n.client n.properties groups).1

def streamLine (c : Classifier) (groups : GroupDirectory) (n : StreamNode) : String :=
  let name := n.name.getD "<unnamed>"
  let resolved := groupOf c groups n
  s!"  [{n.id}] {name}: {resolved.group} ({resolved.origin.name})"

def report (c : Classifier) (groups : GroupDirectory) (reclassify : Bool) (s : Snapshot) :
    List String :=
  "Sinks:" :: s.sinks.flatMap (deviceLines c) ++
    "" :: "Sources:" :: s.sources.flatMap (deviceLines c) ++
    "" :: "Cards:" :: s.cards.flatMap (cardLines c reclassify) ++
    "" :: "Streams:" :: s.streams.map (streamLine c groups)

def run (m : Machine τ) (path : String) (options : ClassifyOptions) : Outcome :=
  match m.rules path with
  | .error failure => { failure }
  | .ok rules =>
    let (c, r) := rules.build
    let loading := rules.buildWarnings
    match m.snapshot options.dump with
    | .error failure => { output := loading.map .logged, stderr := r.rejections, failure }
    | .ok s =>
      let reading := m.snapshotWarnings options.dump
      let (c, session, lines) := session m options s (routed c s)
      let shown := report c (.table rules.groupTable) options.reclassify s
      { output := (loading ++ reading).map .logged ++ lines ++ shown.map .printed
        stderr := r.rejections
        runs := session.runs }

end Classify

end AudioRules

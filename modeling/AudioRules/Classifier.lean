import AudioRules.AppId
import AudioRules.Card
import AudioRules.Device
import AudioRules.Module.Slots
import AudioRules.Stream
import AudioRules.Variables

namespace AudioRules

structure EngineConfig where
  -- of streams that no rule claims
  defaultGroup : String := "othermedia"
deriving DecidableEq, Repr

structure ClientInfo where
  name  : String
  appId : Option String := none
  uid   : Option Nat := none
  exe   : Option String := none
deriving DecidableEq, Repr

-- What decided the group of a stream.
inductive GroupOrigin
  | appId | streamRule | default
deriving DecidableEq, Repr

namespace GroupOrigin

def name : GroupOrigin → String
  | appId      => "AppId"
  | streamRule => "StreamRule"
  | default    => "Default"

end GroupOrigin

structure StreamGroup where
  group  : String
  flags  : FlagSet
  origin : GroupOrigin
deriving DecidableEq

structure Classifier where
  config    : EngineConfig := {}
  vars      : Variables := .empty
  sinks     : DeviceTable .sink := .empty
  sources   : DeviceTable .source := .empty
  cards     : CardTable := .empty
  streams   : StreamRules := .empty
  appIds    : AppIds := .empty
  modules   : ModuleSlots := {}
deriving DecidableEq

-- Variables in definitions

namespace Variables

def inPredicate (vars : Variables) (s : PredicateSpec) : PredicateSpec where
  target := match s.target with
    | .property key => .property (vars.resolve key)
    | target => target
  method := s.method
  arg := vars.resolveOpt s.arg

def inModule (vars : Variables) (m : ModuleSpec) : ModuleSpec :=
  ⟨vars.resolve m.name, vars.resolveOpt m.args⟩

def inDevice (vars : Variables) (d : Device.RuleDef) : Device.RuleDef :=
  { d with
    label := vars.resolve d.label
    predicate := vars.inPredicate d.predicate
    ports := d.ports.map fun p => ⟨vars.resolve p.port, vars.inPredicate p.predicate⟩
    module? := d.module?.map vars.inModule }

def inCard (vars : Variables) (d : Card.RuleDef) : Card.RuleDef where
  label := vars.resolve d.label
  slots := d.slots.map fun s =>
    { s with predicate := vars.inPredicate s.predicate, profile := vars.resolveOpt s.profile }

def inStream (vars : Variables) (d : Stream.RuleDef) : Stream.RuleDef :=
  { d with
    filters :=
      { d.filters with
        predicate := d.filters.predicate.map vars.inPredicate
        client := vars.resolveOpt d.filters.client
        sink := vars.resolveOpt d.filters.sink
        exe := vars.resolveOpt d.filters.exe }
    group := vars.resolve d.group
    overlay := vars.resolveOpt d.overlay }

end Variables

namespace Classifier

-- Registration

def setVariable (c : Classifier) (name value : String) : Classifier :=
  { c with vars := c.vars.set name value }

def devices (c : Classifier) : (d : Direction) → DeviceTable d
  | .sink   => c.sinks
  | .source => c.sources

def setDevices (c : Classifier) : (d : Direction) → DeviceTable d → Classifier
  | .sink, t   => { c with sinks := t }
  | .source, t => { c with sources := t }

-- The answer to a definition, with the classifier that it leaves.
def enlistDevice (c : Classifier) (d : Direction) (rule : Device.RuleDef) :
    Except RuleError RuleChange × Classifier :=
  ((c.devices d).add (c.vars.inDevice rule)).map id (c.setDevices d)

def enlistCard (c : Classifier) (rule : Card.RuleDef) : Except RuleError RuleChange × Classifier :=
  (c.cards.add (c.vars.inCard rule)).map id fun cards => { c with cards }

def enlistStream (c : Classifier) (rule : Stream.RuleDef) :
    Except RuleError RuleChange × Classifier :=
  (c.streams.add (c.vars.inStream rule)).map id fun streams => { c with streams }

-- Application ids arrive at run time, and their texts are taken as they are.
def enlistAppId (c : Classifier) (id : String) (spec : Option PredicateSpec) (group : String) :
    Except MatchError Unit × Classifier :=
  (c.appIds.register id spec group).map (·) fun appIds => { c with appIds }

-- For a host that keeps what it has when a definition is refused, as that is what is left then.
def addDevice (c : Classifier) (d : Direction) (rule : Device.RuleDef) :
    Except RuleError (RuleChange × Classifier) :=
  (c.enlistDevice d rule).1.map (·, (c.enlistDevice d rule).2)

def addCard (c : Classifier) (rule : Card.RuleDef) : Except RuleError (RuleChange × Classifier) :=
  (c.enlistCard rule).1.map (·, (c.enlistCard rule).2)

def addStream (c : Classifier) (rule : Stream.RuleDef) :
    Except RuleError (RuleChange × Classifier) :=
  (c.enlistStream rule).1.map (·, (c.enlistStream rule).2)

def registerAppId (c : Classifier) (id : String) (spec : Option PredicateSpec) (group : String) :
    Except MatchError Classifier :=
  (c.enlistAppId id spec group).1.map fun _ => (c.enlistAppId id spec group).2

-- An entry goes by its id alone.
def unregisterAppId (c : Classifier) (id : String) : Option String × Classifier :=
  let (group, appIds) := c.appIds.unregister id
  (group, { c with appIds })

def removeDevice (c : Classifier) (d : Direction) (label : String) : Bool × Classifier :=
  let (removed, table) := (c.devices d).remove label
  (removed, c.setDevices d table)

def removeCard (c : Classifier) (label : String) : Bool × Classifier :=
  let (removed, cards) := c.cards.remove label
  (removed, { c with cards })

-- Streams

-- The stream rules for a stream; without a client, its properties name the program.
def queryOf (client : Option ClientInfo) (properties : Proplist) : StreamQuery :=
  match client with
  | some client => { client := client.name, uid := client.uid, exe := client.exe }
  | none => { exe := properties.get? "application.process.binary" }

-- The group of a stream, and its properties with what the deciding rule adds to them.
def resolveGroup (c : Classifier) (client : Option ClientInfo) (properties : Proplist)
    (groups : GroupDirectory) : StreamGroup × Proplist :=
  let byAppId := client.bind fun client =>
    client.appId.bind fun id => c.appIds.groupFor? id properties
  match byAppId with
  | some group => (⟨group, .none, .appId⟩, properties)
  | none =>
    match c.streams.resolve? properties (queryOf client properties) groups with
    | some (rule, properties) => (⟨rule.group, rule.flags, .streamRule⟩, properties)
    | none => (⟨c.config.defaultGroup, .none, .default⟩, properties)

def updateRoute (c : Classifier) (route : String) : Classifier :=
  { c with streams := c.streams.updateRoute route }

-- Modules

-- A type without a rule leaves the module of the direction alone.
def updateModule (c : Classifier) (d : Direction) (label : String) (host : ModuleHost σ) (s : σ) :
    Except ModuleError (Option ModuleIndex) × Classifier × σ :=
  match (c.devices d).get? label with
  | none => (.ok (c.modules.index? d), c, s)
  | some rule =>
    let (result, modules, s) := c.modules.update d rule.data host s
    (result, { c with modules }, s)

def reconcileModules (c : Classifier) (d : Direction) (label : String) (host : ModuleHost σ)
    (s : σ) : Bool × Classifier × σ :=
  let (unloaded, modules, s) := c.modules.reconcile d ((c.devices d).get? label) host s
  (unloaded, { c with modules }, s)

def invalidateModule (c : Classifier) (d : Direction) : Option LoadedModule × Classifier :=
  let (loaded, modules) := c.modules.invalidate d
  (loaded, { c with modules })

def moduleUnlinked (c : Classifier) (index : ModuleIndex) : Option Direction × Classifier :=
  let (d, modules) := c.modules.unlinked index
  (d, { c with modules })

def shutdown (c : Classifier) (host : ModuleHost σ) (s : σ) : Classifier × σ :=
  let (modules, s) := c.modules.shutdown host s
  ({ c with modules }, s)

end Classifier

end AudioRules

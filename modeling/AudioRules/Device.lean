import AudioRules.Flags
import AudioRules.Module.Spec
import AudioRules.Predicate.Basic
import AudioRules.RuleTable

namespace AudioRules

namespace Device

structure PortDef where
  port      : String
  predicate : PredicateSpec
deriving DecidableEq, Repr

-- A rule before its predicates are compiled.
structure RuleDef where
  label     : String
  predicate : PredicateSpec
  ports     : List PortDef := []
  module?   : Option ModuleSpec := none
  flags     : FlagSet := .none
  -- in milliseconds, for rules that delay port changes
  delay     : Nat := 0
deriving DecidableEq, Repr

-- A port to switch to when the type of the rule becomes the route.
structure Port where
  name      : String
  predicate : Predicate
deriving DecidableEq

structure Data where
  ports   : List Port
  module? : Option ModuleSpec
  flags   : FlagSet
  delay   : Nat
deriving DecidableEq

namespace Data

def findPort? (d : Data) (o : HostObject) : Option Port :=
  d.ports.find? (·.predicate.acceptsKind o.kind o)

end Data

structure Rule where
  predicate : Predicate
  data      : Data
deriving DecidableEq

def compile (kind : ObjectKind) (spec : PredicateSpec) : Except RuleError Predicate :=
  (Predicate.compile kind spec).mapError .predicate

def PortDef.build (p : PortDef) (label : String) (kind : ObjectKind) : Except RuleError Port := do
  if p.port = "" then
    throw (.invalidPort s!"empty port name in '{label}'")
  return ⟨p.port, ← compile kind p.predicate⟩

def RuleDef.build (d : RuleDef) (kind : ObjectKind) : Except RuleError Rule := do
  if d.label = "" then
    throw .emptyType
  let predicate ← compile kind d.predicate
  let ports ← d.ports.mapM (·.build d.label kind)
  return ⟨predicate, { ports, module? := d.module?, flags := d.flags, delay := d.delay }⟩

end Device

-- The rules for one direction.
structure DeviceTable (d : Direction) where
  rules : RuleTable Device.Rule
deriving DecidableEq

namespace DeviceTable

variable {d : Direction}

def empty : DeviceTable d := ⟨.empty⟩

instance : Inhabited (DeviceTable d) := ⟨empty⟩

def get? (t : DeviceTable d) (label : String) : Option Device.Rule := t.rules.get? label

def add (t : DeviceTable d) (rule : Device.RuleDef) :
    Except RuleError RuleChange × DeviceTable d :=
  (t.rules.define rule.label (rule.build d.objectKind)).map id mk

def remove (t : DeviceTable d) (label : String) : Bool × DeviceTable d :=
  (t.rules.contains label, ⟨t.rules.erase label⟩)

def types (t : DeviceTable d) : List String := t.rules.labels

-- The types of an object, by the rules whose flags agree.
def classify (t : DeviceTable d) (o : HostObject) (mask value : FlagSet) : List String :=
  (t.rules.entries.filter fun (_, r) =>
    r.predicate.accepts o && r.data.flags.agrees mask value).map Prod.fst

def typeof? (t : DeviceTable d) (o : HostObject) (label : String) : Option Device.Data :=
  ((t.get? label).filter (·.predicate.accepts o)).map (·.data)

-- The data of a type that has a port for the object.
def portTypeof? (t : DeviceTable d) (o : HostObject) (label : String) : Option Device.Data :=
  ((t.get? label).map (·.data)).filter fun data => (data.findPort? o).isSome

end DeviceTable

end AudioRules

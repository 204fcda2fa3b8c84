import AudioRules.Classifier

namespace AudioRules

structure GroupEntry where
  name    : String
  dynamic : Bool := false
  -- of a dynamic group, at first
  running : Bool := false
deriving DecidableEq, Repr

structure PortEntry where
  port      : String
  predicate : String
deriving DecidableEq, Repr

structure DeviceEntry where
  label     : String
  predicate : String
  ports     : List PortEntry := []
  module?   : Option ModuleSpec := none
  flags     : List String := []
  -- in milliseconds
  delay     : Nat := 0
deriving DecidableEq, Repr

structure CardSlotEntry where
  predicate : String
  profile   : Option String := none
  flags     : List String := []
deriving DecidableEq, Repr

structure CardEntry where
  label : String
  slots : List CardSlotEntry
deriving DecidableEq, Repr

structure StreamEntry where
  predicate  : Option String := none
  client     : Option String := none
  sink       : Option String := none
  uid        : Option Nat := none
  exe        : Option String := none
  group      : String := ""
  flags      : List String := []
  properties : Option String := none
deriving DecidableEq, Repr

structure AppIdSetting where
  appId     : String
  predicate : Option String := none
  group     : String
deriving DecidableEq, Repr

-- As documents declare them; texts are not taken apart yet.
structure RuleSet where
  engine    : EngineConfig := {}
  vars      : KeyMap String := .empty
  groups    : List GroupEntry := []
  sinks     : List DeviceEntry := []
  sources   : List DeviceEntry := []
  cards     : List CardEntry := []
  streams   : List StreamEntry := []
  appIds    : List AppIdSetting := []
deriving DecidableEq

namespace RuleSet

def sinkState (g : GroupEntry) : GroupSink := if g.dynamic then .dynamic g.running else .static

def groupTable (r : RuleSet) : GroupTable :=
  KeyMap.ofList (r.groups.map fun g => (g.name, sinkState g))

end RuleSet

end AudioRules

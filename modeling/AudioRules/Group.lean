import AudioRules.KeyMap

namespace AudioRules

inductive GroupSink
  -- always the same sink
  | static
  | dynamic (running : Bool)
deriving DecidableEq, Repr

namespace GroupSink

def isActive : GroupSink → Bool
  | static          => true
  | dynamic running => running

end GroupSink

abbrev GroupTable := KeyMap GroupSink

namespace GroupTable

-- Static groups have no running state to change.
def setRunning (t : GroupTable) (group : String) (running : Bool) : GroupTable :=
  match t.get? group with
  | some (.dynamic _) => t.insert group (.dynamic running)
  | _ => t

end GroupTable

-- Where the state of a group's sink is looked up.
structure GroupDirectory where
  sink? : String → Option GroupSink

namespace GroupDirectory

-- Knows every group, and each as static.
def everyStatic : GroupDirectory := ⟨fun _ => some .static⟩

def table (t : GroupTable) : GroupDirectory := ⟨t.get?⟩

-- Groups that the directory does not know have no active sink.
def isActive (g : GroupDirectory) (group : String) : Bool := (g.sink? group).any (·.isActive)

end GroupDirectory

end AudioRules

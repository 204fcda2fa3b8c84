import AudioRules.Access
import AudioRules.Text.Bytes

namespace AudioRules

-- What a program leaves behind.
structure ToolOutput where
  stdout : Bytes := []
  stderr : Bytes := []
  exit   : Nat := 0
deriving DecidableEq, Repr

namespace ToolOutput

def isSuccess (o : ToolOutput) : Bool := o.exit == 0

end ToolOutput

-- What a program does with its arguments in states `τ`: its output, or why it does not start.
abbrev Tool (τ : Type) := List String → τ → Except AccessError ToolOutput × τ

namespace Tool

def missing : Tool τ := fun _ t => (.error .notFound, t)

def canTake (arg : String) : Bool := !arg.toList.contains '\x00'

-- Whether there is such a program is not asked if it cannot be given its arguments.
def start (tool : Tool τ) : Tool τ := fun args t =>
  if args.all canTake then tool args t else (.error .nul, t)

end Tool

end AudioRules

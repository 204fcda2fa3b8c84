import AudioRules.Module.Slots
import AudioRules.Text.Natural
import AudioRules.Tool

namespace AudioRules

-- What has happened so far, with a `pactl` in states `τ`.
structure PactlSession (τ : Type) where
  state   : τ
  -- the arguments of each run
  runs    : List (List String) := []
  printed : List String := []
  -- loads that were only printed
  loads   : ModuleIndex := 0

namespace PactlSession

def print (s : PactlSession τ) (line : String) : PactlSession τ :=
  { s with printed := s.printed ++ [line] }

-- Runs that do not start leave no trace.
def run (pactl : Tool τ) (args : List String) (s : PactlSession τ) :
    Except AccessError ToolOutput × PactlSession τ :=
  match pactl.start args s.state with
  | (.ok output, state) => (.ok output, { s with state, runs := s.runs ++ [args] })
  | (.error e, state)  => (.error e, { s with state })

end PactlSession

namespace Pactl

def loadArgs (name : String) (args : Option String) : List String :=
  "load-module" :: name :: (args.map Text.words).getD []

def unloadArgs (index : ModuleIndex) : List String := ["unload-module", Nat.repr index.toNat]

-- The index that a load prints.
def index? (output : String) : Option ModuleIndex :=
  (Text.naturalBelow? UInt32.size (Text.trim output)).map UInt32.ofNat

-- The outcome of loading a module.
def loaded (name : String) : Except AccessError ToolOutput → Except ModuleError ModuleIndex
  | .error e => .error (.hostUnavailable s!"Failed to run pactl: {e.message}")
  | .ok output =>
    if output.isSuccess then
      let text := output.stdout.lossyText
      match index? text with
      | some index => .ok index
      | none =>
        .error (.loadFailed name ("unexpected pactl output '" ++ Text.trim text ++ "'"))
    else
      .error (.loadFailed name (Text.trim output.stderr.lossyText))

-- An unload that fails is let be.
def unload (pactl : Tool τ) (index : ModuleIndex) (s : PactlSession τ) : PactlSession τ :=
  (s.run pactl (unloadArgs index)).2

-- There is no waiting until a module is not used, so both ways to unload are one.
def host (pactl : Tool τ) : ModuleHost (PactlSession τ) where
  load name args s :=
    let (result, s) := s.run pactl (loadArgs name args)
    (loaded name result, s)
  unload := unload pactl
  requestUnload := unload pactl

def printUnload (index : ModuleIndex) (s : PactlSession τ) : PactlSession τ :=
  s.print s!"pactl unload-module {index.toNat}"

-- Every load succeeds, and the indices count up from one.
def dryRun : ModuleHost (PactlSession τ) where
  load name args s :=
    let s := s.print ("pactl load-module " ++ name ++ " " ++ args.getD "")
    (.ok (s.loads + 1), { s with loads := s.loads + 1 })
  unload := printUnload
  requestUnload := printUnload

end Pactl

end AudioRules

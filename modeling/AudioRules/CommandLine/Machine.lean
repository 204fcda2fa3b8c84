import AudioRules.Text.Quoted
import AudioRules.Tool
import AudioRules.Warning

namespace AudioRules

-- A machine on which `pactl` has states `τ`.
structure Machine (τ : Type) where
  -- the bytes of a file, or why they cannot be read
  read            : String → Except AccessError Bytes
  -- where the settings of programs are kept
  configDirectory : String
  -- what running `pw-dump` comes to
  dump            : Except AccessError ToolOutput
  pactl           : Tool τ
  state           : τ
  -- the lines that a warning comes to in the log, which is written on standard output; there are
  -- none where the log is turned off
  log             : Warning → List String := fun _ => []

-- Why a command does not succeed.
inductive Failure
  -- a document is not what it should be
  | unreadable
  | io (reason : String)
  | tool (reason : String)
  | complaint (text : String)
deriving DecidableEq, Repr

namespace Failure

def text : Failure → String
  | unreadable     => "Config"
  | io reason      => "Io(" ++ Text.quoted reason ++ ")"
  | tool reason    => "Other(" ++ Text.quoted reason ++ ")"
  | complaint text => Text.quoted text

end Failure

namespace Machine

def readText (m : Machine τ) (path : String) : Except Failure String :=
  match m.read path with
  | .error e => .error (.io s!"{path}: {e.message}")
  | .ok bytes =>
    match bytes.text? with
    | some text => .ok text
    | none      => .error (.io s!"{path}: stream did not contain valid UTF-8")

-- The output of `pw-dump`.
def dumpText (m : Machine τ) : Except Failure String :=
  match m.dump with
  | .error e => .error (.io s!"Failed to run pw-dump: {e.message}")
  | .ok output =>
    if output.isSuccess then
      match output.stdout.flaw?, output.stdout.text? with
      | none, some text => .ok text
      | flaw, _         => .error (.tool ("Failed to read pw-dump output: " ++ flaw.getD ""))
    else
      .error (.tool s!"pw-dump exited with exit status: {output.exit}")

end Machine

-- What a command writes on standard output.
inductive Line
  | printed (text : String)
  | logged (w : Warning)
deriving Repr

namespace Line

-- What is printed by the command itself.
def printed? : Line → Option String
  | printed text => some text
  | logged _     => none

-- The line with a log.
def shown (log : Warning → List String) : Line → List String
  | printed text => [text]
  | logged w     => log w

@[simp]
theorem filterMap_printed (texts : List String) :
    (texts.map printed).filterMap printed? = texts := by
  simp [List.filterMap_map, Function.comp_def, printed?]

@[simp]
theorem filterMap_logged (ws : List Warning) : (ws.map logged).filterMap printed? = [] := by
  simp [List.filterMap_map, Function.comp_def, printed?]

end Line

-- What comes of a command, and the runs of `pactl` in between.
structure Outcome where
  output  : List Line := []
  stderr  : List String := []
  runs    : List (List String) := []
  failure : Option Failure := none
deriving Repr

namespace Outcome

-- Standard output without the log.
def stdout (o : Outcome) : List String := o.output.filterMap Line.printed?

-- Standard output with a log.
def shown (log : Warning → List String) (o : Outcome) : List String :=
  o.output.flatMap (Line.shown log)

def exit (o : Outcome) : Nat := if o.failure.isSome then 1 else 0

-- The errors, with the failure at the end.
def errors (o : Outcome) : List String :=
  o.stderr ++ (o.failure.map fun f => "Error: " ++ f.text).toList

end Outcome

end AudioRules

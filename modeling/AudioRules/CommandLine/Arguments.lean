import AudioRules.Text.Cut
import AudioRules.Text.Natural

namespace AudioRules

structure ClassifyOptions where
  -- a file with a dump, in place of a new one
  dump        : Option String := none
  reclassify  : Bool := false
  loadModules : Bool := false
  dryRun      : Bool := false
deriving DecidableEq, Repr

-- A stream as it is described on the command line.
structure StreamDescription where
  appId  : Option String := none
  client : Option String := none
  uid    : Option Nat := none
  exe    : Option String := none
  props  : List String := []
  -- the sink to which streams are routed
  route  : Option String := none
deriving DecidableEq, Repr

inductive Command
  | check
  | classify (options : ClassifyOptions)
  | group (stream : StreamDescription)
deriving DecidableEq, Repr

-- What the program is asked for.
inductive Request
  | help
  | version
  | run (rules : Option String) (command : Command)
deriving DecidableEq, Repr

namespace CommandLine

inductive Switch
  | rules | help | version
  | dump | reclassify | loadModules | dryRun
  | appId | client | uid | exe | prop | route
deriving DecidableEq, Repr

namespace Switch

def long : Switch → String
  | rules       => "rules"
  | help        => "help"
  | version     => "version"
  | dump        => "dump"
  | reclassify  => "reclassify"
  | loadModules => "load-modules"
  | dryRun      => "dry-run"
  | appId       => "app-id"
  | client      => "client"
  | uid         => "uid"
  | exe         => "exe"
  | prop        => "prop"
  | route       => "route"

def short? : Switch → Option Char
  | rules   => some 'r'
  | help    => some 'h'
  | version => some 'V'
  | dump    => some 'd'
  | prop    => some 'p'
  | _       => none

def takesValue : Switch → Bool
  | help | version | reclassify | loadModules | dryRun => false
  | _ => true

-- Paths are not empty, and user ids are numbers of 32 bits.
def takes (value : String) : Switch → Bool
  | rules | dump => value != ""
  | uid => (Text.integer? value).any fun n => 0 ≤ n && n < (UInt32.size : Int)
  | _ => true

end Switch

-- What stands where a subcommand may stand.
inductive Subcommand
  | check | classify | group
deriving DecidableEq, Repr

namespace Subcommand

def all : List Subcommand := [.check, .classify, .group]

def name : Subcommand → String
  | check    => "check"
  | classify => "classify"
  | group    => "group"

def ofName? (name : String) : Option Subcommand := all.find? (·.name == name)

def switches : Subcommand → List Switch
  | check    => [.rules, .help]
  | classify => [.rules, .help, .dump, .reclassify, .loadModules, .dryRun]
  | group    => [.rules, .help, .appId, .client, .uid, .exe, .prop, .route]

end Subcommand

-- Switches that may stand before the subcommand.
def commonSwitches : List Switch := [.rules, .help, .version]

-- A single argument.
inductive Token
  | word
  -- after it all arguments are words
  | divider
  | switch (s : Switch)
  | valued (s : Switch) (value : String)
  | unknown
deriving DecidableEq, Repr

namespace Token

def ofLong (known : List Switch) (text : List Char) : Token :=
  let (name, value) := match Text.cutChars? '=' text with
    | some (name, value) => (name, some value)
    | none               => (text, none)
  match known.find? (·.long.toList == name), value with
  | some s, none       => .switch s
  | some s, some value => if s.takesValue then .valued s (String.ofList value) else .unknown
  | none, _            => .unknown

-- A letter with what follows it as its value.
def ofShort (known : List Switch) (letter : Char) (value : List Char) : Token :=
  match known.find? (·.short? == some letter) with
  | none => .unknown
  | some s =>
    if s.takesValue then
      match value with
      | []           => .switch s
      | '=' :: value => .valued s (String.ofList value)
      | value        => .valued s (String.ofList value)
    else
      .switch s

def read (known : List Switch) (arg : String) : Token :=
  match arg.toList with
  | ['-', '-']              => .divider
  | '-' :: '-' :: text      => ofLong known text
  | '-' :: letter :: value  => ofShort known letter value
  | _                       => .word

end Token

-- The switches given so far, with their values.
abbrev Given := List (Switch × String)

namespace Given

def has (g : Given) (s : Switch) : Bool := g.any (·.1 == s)

def values (g : Given) (s : Switch) : List String := (g.filter (·.1 == s)).map (·.2)

def value? (g : Given) (s : Switch) : Option String := g.lookup s

-- Only properties may be given more than once.
def add? (g : Given) (s : Switch) (value : String) : Option Given :=
  if s != .prop && g.has s || !s.takes value then none else some (g ++ [(s, value)])

def classifyOptions (g : Given) : ClassifyOptions where
  dump        := g.value? .dump
  reclassify  := g.has .reclassify
  loadModules := g.has .loadModules
  dryRun      := g.has .dryRun

def streamDescription (g : Given) : StreamDescription where
  appId  := g.value? .appId
  client := g.value? .client
  uid    := ((g.value? .uid).bind Text.integer?).map Int.toNat
  exe    := g.value? .exe
  props  := g.values .prop
  route  := g.value? .route

-- A dry run is one of loading modules.
def command? (g : Given) : Subcommand → Option Command
  | .check => some .check
  | .classify =>
    if g.has .dryRun && !g.has .loadModules then none else some (.classify g.classifyOptions)
  | .group => some (.group g.streamDescription)

end Given

-- Where reading switches ends.
inductive Stop
  -- at a word or at the end, with the arguments that are left
  | words (given : Given) (args : List String)
  | asked (request : Request)
  | misuse
deriving DecidableEq, Repr

-- Whether an argument can be the value of the switch before it.
def isValue (arg : String) : Bool := Token.read [] arg == .word

-- Reads switches up to the first word. Help and version are answered where they stand.
def switches (known : List Switch) (given : Given) : List String → Stop
  | [] => .words given []
  | arg :: args =>
    match Token.read known arg with
    | .word            => .words given (arg :: args)
    | .divider         => if args.isEmpty then .words given [] else .misuse
    | .unknown         => .misuse
    | .switch .help    => .asked .help
    | .switch .version => .asked .version
    | .valued s value  =>
      match given.add? s value with
      | some given => switches known given args
      | none       => .misuse
    | .switch s =>
      if s.takesValue then
        match args with
        | [] => .misuse
        | value :: args =>
          match if isValue value then given.add? s value else none with
          | some given => switches known given args
          | none       => .misuse
      else
        match given.add? s "" with
        | some given => switches known given args
        | none       => .misuse

-- Help on all, on help itself or on a subcommand.
def helpOn : List String → Option Request
  | []       => some .help
  | ["help"] => some .help
  | [name]   => (Subcommand.ofName? name).map fun _ => .help
  | _        => none

-- The request in some arguments. A rule set named after the subcommand counts most.
def parse? (args : List String) : Option Request :=
  match switches commonSwitches [] args with
  | .misuse        => none
  | .asked request => some request
  | .words _ []    => none
  | .words before (word :: args) =>
    if word = "help" then helpOn args
    else do
      let subcommand ← Subcommand.ofName? word
      match switches subcommand.switches [] args with
      | .words given [] =>
        return .run (given.value? .rules <|> before.value? .rules) (← given.command? subcommand)
      | .asked request => some request
      | _ => none

end CommandLine

end AudioRules

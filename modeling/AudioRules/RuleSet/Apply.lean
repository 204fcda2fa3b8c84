import AudioRules.RuleSet.Basic

namespace AudioRules

-- The part of a rule set that an entry is declared in.
inductive Section
  | sink | source | card | stream | appId
deriving DecidableEq, Repr

namespace Section

def name : Section → String
  | sink   => "sink"
  | source => "source"
  | card   => "card"
  | stream => "stream"
  | appId  => "app-id"

def ofDirection : Direction → Section
  | .sink   => sink
  | .source => source

end Section

structure Rejection where
  part  : Section
  -- as declared
  label : String
  error : PolicyError
deriving DecidableEq, Repr

namespace Rejection

def text (r : Rejection) : String := s!"[{r.part.name}] {r.label}: {r.error.message}"

end Rejection

structure LoadReport where
  applied  : Nat := 0
  rejected : List Rejection := []
deriving DecidableEq, Repr

namespace LoadReport

def isClean (r : LoadReport) : Bool := r.rejected.isEmpty

end LoadReport

namespace PredicateSpec

def parseOpt (text : Option String) : Except MatchError (Option PredicateSpec) :=
  match text with
  | none      => .ok none
  | some text => (parse text).map some

end PredicateSpec

-- Entries as definitions. The names of flags may be variables.

def FlagSet.ofNamesIn (vars : Variables) (known : FlagSet.Names) (names : List String) : FlagSet :=
  .ofNames known (names.map vars.resolve)

namespace DeviceEntry

def toDef (vars : Variables) (e : DeviceEntry) : Except MatchError Device.RuleDef := do
  let predicate ← PredicateSpec.parse e.predicate
  let ports ← e.ports.mapM fun p => do
    return (⟨p.port, ← PredicateSpec.parse p.predicate⟩ : Device.PortDef)
  return {
    label := e.label
    predicate
    ports
    module? := e.module?
    flags := .ofNamesIn vars DeviceFlag.names e.flags
    delay := e.delay }

end DeviceEntry

namespace CardEntry

def toDef (vars : Variables) (e : CardEntry) : Except MatchError Card.RuleDef := do
  let slots ← e.slots.mapM fun s => do
    return ({
      predicate := ← PredicateSpec.parse s.predicate
      profile := s.profile
      flags := .ofNamesIn vars CardFlag.names s.flags } : Card.SlotDef)
  return ⟨e.label, slots⟩

end CardEntry

namespace StreamEntry

def toDef (vars : Variables) (e : StreamEntry) : Except MatchError Stream.RuleDef := do
  let predicate ← PredicateSpec.parseOpt e.predicate
  return {
    filters := { predicate, client := e.client, sink := e.sink, uid := e.uid, exe := e.exe }
    group := e.group
    flags := .ofNamesIn vars StreamFlag.names e.flags
    overlay := e.properties }

end StreamEntry

-- An entry of a rule set in its section.
inductive Entry
  | device (d : Direction) (e : DeviceEntry)
  | card (e : CardEntry)
  | stream (e : StreamEntry)
  | appId (e : AppIdSetting)
deriving DecidableEq, Repr

namespace Entry

def part : Entry → Section
  | device d _ => .ofDirection d
  | card _     => .card
  | stream _   => .stream
  | appId _    => .appId

def label : Entry → String
  | device _ e => e.label
  | card e     => e.label
  | stream e   => e.group
  | appId e    => e.appId

-- What is made of an entry is registered. With the error, if there is one, comes the classifier that
-- is left.
def register (c : Classifier) (definition : Except MatchError δ) (ofError : ε → PolicyError)
    (enlist : δ → Except ε α × Classifier) : Except PolicyError Unit × Classifier :=
  match definition with
  | .ok d    => (enlist d).map (fun result => (result.mapError ofError).map fun _ => ()) id
  | .error e => (.error (.ofMatch e), c)

def install (c : Classifier) : Entry → Except PolicyError Unit × Classifier
  | device d e => register c (e.toDef c.vars) .ofRule (c.enlistDevice d)
  | card e     => register c (e.toDef c.vars) .ofRule c.enlistCard
  | stream e   => register c (e.toDef c.vars) .ofRule c.enlistStream
  | appId e    =>
    register c (PredicateSpec.parseOpt e.predicate) .ofMatch (c.enlistAppId e.appId · e.group)

-- What an entry changes, and what it adds to the report.
def apply (e : Entry) (c : Classifier) (report : LoadReport) : Classifier × LoadReport :=
  let (result, c) := e.install c
  match result with
  | .ok () => (c, { report with applied := report.applied + 1 })
  | .error error =>
    (c, { report with rejected := report.rejected ++ [⟨e.part, e.label, error⟩] })

end Entry

namespace RuleSet

-- In the order in which they are installed.
def entries (r : RuleSet) : List Entry :=
  r.sinks.map (.device .sink) ++ r.sources.map (.device .source) ++ r.cards.map .card ++
    r.streams.map .stream ++ r.appIds.map .appId

-- Variables come first, so that every entry sees all of them.
def declare (r : RuleSet) (c : Classifier) : Classifier :=
  r.vars.entries.foldl (fun c v => c.setVariable v.1 v.2) c

def apply (r : RuleSet) (c : Classifier) : Classifier × LoadReport :=
  r.entries.foldl (fun (c, report) e => e.apply c report) (r.declare c, {})

-- A new classifier with the rule set installed.
def build (r : RuleSet) : Classifier × LoadReport := r.apply { config := r.engine }

end RuleSet

end AudioRules

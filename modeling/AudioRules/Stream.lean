import AudioRules.Flags
import AudioRules.Group
import AudioRules.Predicate.Basic
import AudioRules.RuleTable

namespace AudioRules

-- What is known of the client of a stream.
structure StreamQuery where
  client : Option String := none
  uid    : Option Nat := none
  exe    : Option String := none
deriving DecidableEq, Repr

namespace Stream

-- What a rule asks of a stream, with predicates `π`.
structure Filters (π : Type) where
  predicate : Option π := none
  client    : Option String := none
  sink      : Option String := none
  uid       : Option Nat := none
  exe       : Option String := none
deriving DecidableEq, Repr

structure RuleDef where
  filters : Filters PredicateSpec
  group   : String
  flags   : FlagSet := .none
  -- properties for the streams of the rule, as text
  overlay : Option String := none
deriving DecidableEq, Repr

-- Whether a rule that is bound to a sink takes part.
inductive Activity
  | notApplicable | inactive | active
deriving DecidableEq, Repr

structure Rule where
  filters  : Filters Predicate
  activity : Activity
  group    : String
  flags    : FlagSet
  overlay  : Option Proplist
deriving DecidableEq

namespace Rule

def hasFiltersOf (r : Rule) (d : RuleDef) : Bool :=
  sameOptional r.filters.predicate d.filters.predicate &&
    r.filters.client == d.filters.client &&
    r.filters.sink == d.filters.sink &&
    r.filters.uid == d.filters.uid &&
    r.filters.exe == d.filters.exe

-- A filter that is given needs the same value.
def passes [BEq β] (filter value : Option β) : Bool := filter.isNone || filter == value

def accepts (r : Rule) (properties : Proplist) (q : StreamQuery) (groups : GroupDirectory) :
    Bool :=
  r.filters.predicate.all (·.accepts (.ofProplist properties)) &&
    passes r.filters.client q.client &&
    passes r.filters.uid q.uid &&
    r.activity != .inactive &&
    groups.isActive r.group &&
    passes r.filters.exe q.exe

-- With the group, flags and overlay of a definition, and all else as it was.
def redefine (r : Rule) (d : RuleDef) (overlay : Option Proplist) : Rule :=
  { r with group := d.group, flags := d.flags, overlay }

def follow (r : Rule) (route : String) : Rule :=
  match r.filters.sink with
  | none      => r
  | some sink => { r with activity := if sink = route then .active else .inactive }

end Rule

namespace RuleDef

def overlay? (d : RuleDef) : Except RuleError (Option Proplist) :=
  match d.overlay with
  | none => .ok none
  | some text =>
    match Proplist.parse text with
    | .ok properties => .ok (some properties)
    | .error _       => .error (.invalidProperties text)

def predicate? (d : RuleDef) : Except RuleError (Option Predicate) :=
  match d.filters.predicate with
  | none => .ok none
  | some spec => ((Predicate.compile .proplist spec).map some).mapError .predicate

-- The overlay of a definition that may become a rule.
def check (d : RuleDef) : Except RuleError (Option Proplist) := do
  if d.group = "" then
    throw .emptyType
  if d.filters.predicate = none ∧ d.filters.uid = none ∧ d.filters.exe = none then
    throw (.missingStreamFilter d.group)
  d.overlay?

-- As a new rule; bound to a sink, it waits for the route.
def build (d : RuleDef) (overlay : Option Proplist) : Except RuleError Rule := do
  let predicate ← d.predicate?
  return {
    filters := { d.filters with predicate }
    activity := if d.filters.sink.isSome then .inactive else .notApplicable
    group := d.group
    flags := d.flags
    overlay }

end RuleDef

end Stream

-- The first rule that accepts a stream decides.
structure StreamRules where
  rules : List Stream.Rule
deriving DecidableEq

namespace StreamRules

def empty : StreamRules := ⟨[]⟩

instance : Inhabited StreamRules := ⟨empty⟩

-- The first rule with the filters of the definition redefined, if there is one.
def redefine? (d : Stream.RuleDef) (overlay : Option Proplist) :
    List Stream.Rule → Option (List Stream.Rule)
  | [] => none
  | r :: rs =>
    if r.hasFiltersOf d then some (r.redefine d overlay :: rs)
    else (redefine? d overlay rs).map (r :: ·)

-- The answer to a definition, with the rules that it leaves.
def add (s : StreamRules) (d : Stream.RuleDef) : Except RuleError RuleChange × StreamRules :=
  match d.check with
  | .error e => (.error e, s)
  | .ok overlay =>
    match redefine? d overlay s.rules with
    | some rules => (.ok .updated, ⟨rules⟩)
    | none =>
      match d.build overlay with
      | .error e => (.error e, s)
      | .ok rule => (.ok .added, ⟨s.rules ++ [rule]⟩)

def find? (s : StreamRules) (properties : Proplist) (q : StreamQuery) (groups : GroupDirectory) :
    Option Stream.Rule :=
  s.rules.find? (·.accepts properties q groups)

-- The rule for a stream, and its properties with the overlay of the rule.
def resolve? (s : StreamRules) (properties : Proplist) (q : StreamQuery)
    (groups : GroupDirectory) : Option (Stream.Rule × Proplist) :=
  (s.find? properties q groups).map fun r => (r, r.overlay.elim properties properties.merge)

def updateRoute (s : StreamRules) (route : String) : StreamRules :=
  ⟨s.rules.map (·.follow route)⟩

end StreamRules

end AudioRules

import AudioRules.Flags
import AudioRules.Predicate.Basic
import AudioRules.RuleTable

namespace AudioRules

namespace Card

-- Slots stand in order of priority. Each names the profile in which the card should run when it
-- applies.
structure SlotDef where
  predicate : PredicateSpec
  profile   : Option String
  flags     : FlagSet := .none
deriving DecidableEq, Repr

structure RuleDef where
  label : String
  slots : List SlotDef
deriving DecidableEq, Repr

structure Slot where
  predicate : Predicate
  -- none to keep the profile that the card is in
  profile   : Option String
  flags     : FlagSet
deriving DecidableEq

namespace Slot

-- Only when classifying again does it matter that a profile is not available.
def supports (s : Slot) (c : ProfileCatalog) (again : Bool) : Bool :=
  match s.profile with
  | none => true
  | some p =>
    match c.availability? p with
    | none => false
    | some a => !again || a != .no

def qualifies (s : Slot) (o : HostObject) (c : ProfileCatalog) (mask value : FlagSet)
    (again : Bool) : Bool :=
  s.predicate.accepts o && s.supports c again && s.flags.agrees mask value

end Slot

abbrev Rule := List Slot

def SlotDef.build (s : SlotDef) (label : String) : Except RuleError Slot := do
  if s.predicate.method = .always then
    throw (.alwaysNotAllowed label)
  let predicate ← (Predicate.compile .card s.predicate).mapError .predicate
  return { predicate, profile := s.profile, flags := s.flags }

def RuleDef.build (d : RuleDef) : Except RuleError Rule := do
  if d.label = "" then
    throw .emptyType
  if d.slots = [] then
    throw (.noCardSlots d.label)
  if maxCardSlots < d.slots.length then
    throw (.tooManyCardSlots d.label d.slots.length)
  d.slots.mapM (·.build d.label)

end Card

structure CardTable where
  rules : RuleTable Card.Rule
deriving DecidableEq

namespace CardTable

def empty : CardTable := ⟨.empty⟩

instance : Inhabited CardTable := ⟨empty⟩

def get? (t : CardTable) (label : String) : Option Card.Rule := t.rules.get? label

def add (t : CardTable) (rule : Card.RuleDef) : Except RuleError RuleChange × CardTable :=
  (t.rules.define rule.label rule.build).map id mk

def remove (t : CardTable) (label : String) : Bool × CardTable :=
  (t.rules.contains label, ⟨t.rules.erase label⟩)

def types (t : CardTable) : List String := t.rules.labels

-- A type for every slot that qualifies, so one with two such slots comes twice.
def classify (t : CardTable) (o : HostObject) (c : ProfileCatalog) (mask value : FlagSet)
    (again : Bool) : List String :=
  t.rules.entries.flatMap fun (label, slots) =>
    (slots.filter (·.qualifies o c mask value again)).map fun _ => label

-- The first slot of a type whose predicate accepts the card, with its place among the slots.
def typeof? (t : CardTable) (o : HostObject) (label : String) : Option (Card.Slot × Nat) := do
  let slots ← t.get? label
  slots.zipIdx.find? (·.1.predicate.accepts o)

end CardTable

end AudioRules

import AudioRules.Error
import AudioRules.Text.Blank
import AudioRules.Text.Cut

namespace AudioRules

inductive Method
  | equals | startsWith | pattern | always
deriving DecidableEq, Repr

namespace Method

def name : Method → String
  | equals     => "equals"
  | startsWith => "startswith"
  | pattern    => "matches"
  | always     => "true"

def parse : String → Except MatchError Method
  | "equals"     => .ok equals
  | "startswith" => .ok startsWith
  | "matches"    => .ok pattern
  | "true"       => .ok always
  | other        => .error (.unknownMethod other)

end Method

-- What is compared: the name of the object, a property, or the object itself.
inductive Target
  | name
  | property (key : String)
  | literal
deriving DecidableEq, Repr

namespace Target

def nameKey : String := "(name)"

def key : Target → String
  | name         => nameKey
  | property key => key
  | literal      => "(string)"

end Target

-- Written `key@method:argument`. Without a key the name of the object is compared.
structure PredicateSpec where
  target : Target
  method : Method
  arg    : Option String
deriving DecidableEq, Repr

namespace PredicateSpec

def key (s : PredicateSpec) : String := s.target.key

-- The target that a key names, if it may be a key.
def target? : Option String → Option Target
  | none => some .name
  | some key =>
    if key = Target.nameKey then some .name
    else if key = "" then none
    else some (.property key)

def parse (text : String) : Except MatchError PredicateSpec := do
  let (head, arg) := match Text.cut? ':' text with
    | some (head, arg) => (head, some arg)
    | none => (text, none)
  let (key, method) := match Text.cut? '@' head with
    | some (key, method) => (some key, method)
    | none => (none, head)
  let method ← Method.parse (Text.trim method)
  if arg = none ∧ method ≠ .always then
    throw (.malformed text)
  match target? key with
  | some target => return { target, method, arg }
  | none => throw (.malformed text)

-- The target before the method, where there is a key to write.
def keyText : Target → String
  | .property key => key ++ "@"
  | _ => ""

def text (s : PredicateSpec) : String :=
  keyText s.target ++
    match s.method, s.arg with
    | .always, _ => Method.always.name
    | m, some arg => m.name ++ ":" ++ arg
    | m, none => m.name

end PredicateSpec

end AudioRules

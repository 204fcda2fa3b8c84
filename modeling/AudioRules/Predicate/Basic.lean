import AudioRules.HostObject
import AudioRules.Pattern.Reader
import AudioRules.Pattern.Search
import AudioRules.Predicate.Spec

namespace AudioRules

-- A method together with its argument.
inductive Test
  | equals (arg : String)
  | startsWith (arg : String)
  | pattern (source : String) (regex : Regex Atom)
  | always
deriving DecidableEq, Repr

namespace Test

-- The pattern in which an argument is tried, between anchors.
def anchored (arg : String) : String := "^(?:" ++ arg ++ ")$"

def compile (method : Method) (arg : Option String) : Except MatchError Test :=
  match method, arg with
  | .always, _ => .ok always
  | m, none => .error (.missingArgument m.name)
  | .equals, some arg => .ok (equals arg)
  | .startsWith, some arg => .ok (startsWith arg)
  | .pattern, some arg =>
    match Pattern.read? (anchored arg).toList with
    | some regex => .ok (pattern arg regex)
    | none => .error (.invalidRegex arg)

def method : Test → Method
  | equals _     => .equals
  | startsWith _ => .startsWith
  | pattern _ _  => .pattern
  | always       => .always

def arg : Test → Option String
  | equals arg       => some arg
  | startsWith arg   => some arg
  | pattern source _ => some source
  | always           => none

def holds (value : String) : Test → Bool
  | equals arg        => value == arg
  | startsWith arg    => arg.toList.isPrefixOf value.toList
  | pattern _ regex   => regex.isMatch value.toList
  | always            => true

end Test

structure Predicate where
  kind   : ObjectKind
  target : Target
  test   : Test
deriving DecidableEq, Repr

namespace Predicate

-- A property list has neither a name nor a text of its own, so only properties can be tested.
def suits (kind : ObjectKind) (spec : PredicateSpec) : Bool :=
  kind != .proplist || spec.method == .always || spec.target matches .property _

def compile (kind : ObjectKind) (spec : PredicateSpec) : Except MatchError Predicate :=
  if suits kind spec then
    (Test.compile spec.method spec.arg).map fun test => { kind, target := spec.target, test }
  else
    .error (.invalidTarget s!"property list can only be matched by property, got '{spec.key}'")

def method (p : Predicate) : Method := p.test.method

def arg (p : Predicate) : Option String := p.test.arg

def spec (p : Predicate) : PredicateSpec := ⟨p.target, p.method, p.arg⟩

-- Whether `s` says the same. An argument that its method ignores makes no difference.
def isSameAs (p : Predicate) (s : PredicateSpec) : Bool :=
  p.target == s.target && p.method == s.method && (p.method == .always || p.arg == s.arg)

-- The text of an object that the target picks.
def subject (o : HostObject) : Target → Option String
  | .name         => o.name
  | .property key => o.property? key
  | .literal      => o.literal

-- An unconditional predicate does not need the text.
def accepts (p : Predicate) (o : HostObject) : Bool :=
  p.test == .always || (subject o p.target).any p.test.holds

def evaluate (p : Predicate) (o : Option HostObject) : Bool := o.any p.accepts

def acceptsKind (p : Predicate) (expected : ObjectKind) (o : HostObject) : Bool :=
  p.kind == expected && o.kind == expected && p.accepts o

-- For reports.
def text (p : Predicate) : String :=
  let target := match p.target with
    | .literal      => "(string) "
    | .name         => "(name) "
    | .property key => s!"(property) {key} "
  target ++ p.method.name ++ ":" ++ p.arg.getD ""

end Predicate

-- Whether an optional predicate is the one that was optionally written.
def sameOptional (p : Option Predicate) (s : Option PredicateSpec) : Bool :=
  match p, s with
  | none,   none   => true
  | some p, some s => p.isSameAs s
  | _,      _      => false

end AudioRules

import AudioRules.Predicate.Basic

namespace AudioRules

structure AppIdEntry where
  -- what the properties of a stream must satisfy as well
  predicate : Option Predicate
  group     : String
deriving DecidableEq

abbrev AppIds := KeyMap AppIdEntry

namespace AppIds

def compile? (spec : Option PredicateSpec) : Except MatchError (Option Predicate) :=
  match spec with
  | none      => .ok none
  | some spec => (Predicate.compile .proplist spec).map some

-- An id that comes with the predicate it has just changes its group.
def register (ids : AppIds) (id : String) (spec : Option PredicateSpec) (group : String) :
    Except MatchError Unit × AppIds :=
  match (ids.get? id).filter fun e => sameOptional e.predicate spec with
  | some e => (.ok (), ids.insert id { e with group })
  | none =>
    match compile? spec with
    | .ok predicate => (.ok (), ids.insert id { predicate, group })
    | .error e      => (.error e, ids)

def unregister (ids : AppIds) (id : String) : Option String × AppIds :=
  ((ids.get? id).map (·.group), ids.erase id)

def groupFor? (ids : AppIds) (id : String) (properties : Proplist) : Option String :=
  ((ids.get? id).filter fun e =>
    e.predicate.all (·.accepts (.ofProplist properties))).map (·.group)

end AppIds

end AudioRules

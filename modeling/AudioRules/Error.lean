namespace AudioRules

inductive MatchError
  | missingArgument (method : String)
  | invalidRegex (pattern : String)
  | invalidTarget (reason : String)
  | unknownMethod (method : String)
  | malformed (text : String)
deriving DecidableEq, Repr

namespace MatchError

def message : MatchError → String
  | missingArgument method => s!"Method '{method}' requires an argument"
  | invalidRegex pattern   => s!"Failed to compile regex from '{pattern}'"
  | invalidTarget reason   => s!"Invalid match target: {reason}"
  | unknownMethod method   => s!"Invalid method '{method}'"
  | malformed text         => s!"Invalid definition '{text}'"

end MatchError

-- A card rule has at most this many slots.
def maxCardSlots : Nat := 2

inductive RuleError
  | emptyType
  | noCardSlots (label : String)
  | tooManyCardSlots (label : String) (count : Nat)
  | alwaysNotAllowed (label : String)
  | missingStreamFilter (group : String)
  | invalidPort (reason : String)
  | invalidProperties (text : String)
  | predicate (e : MatchError)
deriving DecidableEq, Repr

namespace RuleError

def message : RuleError → String
  | emptyType => "Empty type or group name"
  | noCardSlots label => s!"Card '{label}' has no definitions"
  | tooManyCardSlots label count =>
    s!"Card '{label}' has {count} definitions, at most {maxCardSlots} allowed"
  | alwaysNotAllowed label => s!"Card '{label}' can not use an unconditional match"
  | missingStreamFilter group => s!"Stream for group '{group}' needs a property, uid or exe filter"
  | invalidPort reason => s!"Invalid port entry: {reason}"
  | invalidProperties text => s!"Invalid property definition '{text}'"
  | predicate e => e.message

end RuleError

inductive ModuleError
  | loadFailed (name reason : String)
  | hostUnavailable (reason : String)
deriving DecidableEq, Repr

namespace ModuleError

def message : ModuleError → String
  | loadFailed name reason => s!"Failed to load {name}: {reason}"
  | hostUnavailable reason => s!"Module host not available: {reason}"

end ModuleError

inductive PolicyError
  | ofMatch (e : MatchError)
  | ofRule (e : RuleError)
  | ofModule (e : ModuleError)
  | config (reason : String)
  -- a document that is no JSON text, or none of the kind that is asked for
  | unreadable
  | io (reason : String)
  | other (reason : String)
deriving DecidableEq, Repr

namespace PolicyError

def message : PolicyError → String
  | ofMatch e     => s!"Match error: {e.message}"
  | ofRule e      => s!"Rule error: {e.message}"
  | ofModule e    => s!"Module error: {e.message}"
  | config reason => s!"Configuration error: {reason}"
  | unreadable    => "Configuration error: unreadable document"
  | io reason     => s!"I/O error: {reason}"
  | other reason  => reason

end PolicyError

end AudioRules

import AudioRules.Proplist

namespace AudioRules

inductive ObjectKind
  | module | card | sink | source | sinkInput | sourceOutput | port | profile | proplist | literal
deriving DecidableEq, Repr

namespace ObjectKind

def all : List ObjectKind :=
  [.module, .card, .sink, .source, .sinkInput, .sourceOutput, .port, .profile, .proplist, .literal]

-- As documents name it.
def name : ObjectKind → String
  | module       => "module"
  | card         => "card"
  | sink         => "sink"
  | source       => "source"
  | sinkInput    => "sink-input"
  | sourceOutput => "source-output"
  | port         => "port"
  | profile      => "profile"
  | proplist     => "proplist"
  | literal      => "literal"

-- As reports call it.
def title : ObjectKind → String
  | literal => "string"
  | k       => k.name

def ofName? (name : String) : Option ObjectKind := all.find? (·.name == name)

end ObjectKind

inductive Direction
  | sink | source
deriving DecidableEq, Repr

namespace Direction

def all : List Direction := [.sink, .source]

def name : Direction → String
  | sink   => "sink"
  | source => "source"

def ofName? (name : String) : Option Direction := all.find? (·.name == name)

def objectKind : Direction → ObjectKind
  | sink   => .sink
  | source => .source

end Direction

-- An object of a sound server, as predicates see it.
structure HostObject where
  kind       : ObjectKind
  name       : Option String
  properties : Proplist
  -- the object itself if it is a text
  literal    : Option String := none
deriving DecidableEq

namespace HostObject

def device (d : Direction) (name : String) (properties : Proplist) : HostObject :=
  { kind := d.objectKind, name, properties }

def card (name : String) (properties : Proplist) : HostObject :=
  { kind := .card, name, properties }

-- The name of a stream is a property of it.
def stream (d : Direction) (properties : Proplist) : HostObject where
  kind := match d with
    | .sink   => .sinkInput
    | .source => .sourceOutput
  name := properties.get? "media.name"
  properties := properties

def ofProplist (properties : Proplist) : HostObject :=
  { kind := .proplist, name := none, properties }

def ofText (text : String) : HostObject :=
  { kind := .literal, name := text, properties := .empty, literal := text }

def property? (o : HostObject) (key : String) : Option String := o.properties.get? key

end HostObject

-- Whether the hardware of a card profile is there.
inductive Availability
  | unknown | yes | no
deriving DecidableEq, Repr

namespace Availability

def all : List Availability := [.unknown, .yes, .no]

def name : Availability → String
  | unknown => "unknown"
  | yes     => "yes"
  | no      => "no"

def ofName? (name : String) : Option Availability := all.find? (·.name == name)

-- Whatever a server says but yes and no leaves it unknown.
def ofHost (text : String) : Availability := (ofName? text).getD .unknown

end Availability

-- The profiles that a card offers.
abbrev ProfileCatalog := List (String × Availability)

namespace ProfileCatalog

def availability? (c : ProfileCatalog) (profile : String) : Option Availability := c.lookup profile

end ProfileCatalog

end AudioRules

import AudioRules.Json.Basic

namespace AudioRules

namespace Json

-- There is nothing to get out of a value of another kind.
def string? : Json → Option String
  | text s => s
  | _      => none

def bool? : Json → Option Bool
  | bool b => some b
  | _      => none

-- A natural number below a limit.
def below? (limit : Nat) : Json → Option Nat
  | natural n => if n < limit then some n else none
  | _         => none

def list? (item? : Json → Option α) : Json → Option (List α)
  | array items => items.mapM item?
  | _           => none

def nullable? (value? : Json → Option α) : Json → Option (Option α)
  | null => some none
  | j    => (value? j).map some

-- A map from texts, where the last of several values for a key counts.
def entries? (value? : Json → Option α) : Json → Option (List (String × α))
  | object fields => fields.mapM fun (k, v) => do return (← k, ← value? v)
  | _             => none

-- One of some names, alone or as the key of a null.
def name? : Json → Option String
  | text s                => s
  | object [(k, null)]    => k
  | _                     => none

abbrev Record := List (String × Json)

-- The known fields of a record. It is an object, which may have other fields as well but no known
-- one twice, or an array of the fields in their order.
def record? (names : List String) : Json → Option Record
  | object fields => do
    let fields ← fields.mapM fun (k, v) => k.map fun k => (k, v)
    let known := fields.filter fun (k, _) => names.contains k
    if (known.map Prod.fst).Nodup then some known else none
  | array items => if items.length ≤ names.length then some (names.zip items) else none
  | _ => none

namespace Record

def required? (r : Record) (name : String) (value? : Json → Option α) : Option α :=
  (r.lookup name).bind value?

-- A field that may be missing, and then has a default.
def optional? (r : Record) (name : String) (value? : Json → Option α) (default : α) : Option α :=
  match r.lookup name with
  | none   => some default
  | some j => value? j

end Record

end Json

end AudioRules

namespace AudioRules

-- The digits of a number as it is written.
structure Numeral where
  negative : Bool
  whole    : List Nat
  -- empty without a point
  fraction : List Nat
  -- whether it is negative, and its digits
  exponent : Option (Bool × List Nat)
deriving DecidableEq, Repr

-- Texts come as `none` if escapes in them name half of a surrogate pair. Such a document is well
-- formed, but the text cannot be read.
inductive Json
  | null
  | bool (b : Bool)
  -- an unsigned integer without point and exponent
  | natural (n : Nat)
  -- any other number
  | decimal (n : Numeral)
  | text (s : Option String)
  | array (items : List Json)
  | object (fields : List (Option String × Json))
deriving Repr

namespace Json

def ofString (s : String) : Json := .text (some s)

def ofOption (s : Option String) : Json := s.elim .null ofString

def ofStrings (ss : List String) : Json := .array (ss.map ofString)

def ofFields (fields : List (String × Json)) : Json :=
  .object (fields.map fun (k, v) => (some k, v))

end Json

end AudioRules

namespace AudioRules

namespace Text

-- One digit at least.
def digits? (cs : List Char) : Option Nat :=
  if cs.isEmpty || !cs.all Char.isDigit then none
  else some (cs.foldl (fun n c => 10 * n + (c.toNat - '0'.toNat)) 0)

-- After a plus sign if one likes.
def natural? (text : String) : Option Nat :=
  match text.toList with
  | '+' :: cs => digits? cs
  | cs        => digits? cs

-- A natural number below a limit.
def naturalBelow? (limit : Nat) (text : String) : Option Nat :=
  (natural? text).filter (· < limit)

def integer? (text : String) : Option Int :=
  match text.toList with
  | '-' :: cs => (digits? cs).map fun n => -(n : Int)
  | _         => (natural? text).map fun n => (n : Int)

end Text

end AudioRules

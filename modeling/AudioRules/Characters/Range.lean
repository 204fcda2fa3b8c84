namespace AudioRules

-- The code points `first`, `first + step`, … up to `last`.
structure CharRange where
  first : Nat
  last  : Nat
  step  : Nat
deriving DecidableEq, Repr

namespace CharRange

def contains (r : CharRange) (n : Nat) : Bool :=
  r.first ≤ n && n ≤ r.last && (n - r.first) % r.step == 0

def single (n : Nat) : CharRange := ⟨n, n, 1⟩

def hexDigit? (c : Char) : Option Nat :=
  if '0' ≤ c && c ≤ '9' then some (c.toNat - '0'.toNat)
  else if 'A' ≤ c && c ≤ 'F' then some (c.toNat - 'A'.toNat + 10)
  else if 'a' ≤ c && c ≤ 'f' then some (c.toNat - 'a'.toNat + 10)
  else none

def hex? (text : String) : Option Nat :=
  text.toList.foldl (fun acc c => do return (← acc) * 16 + (← hexDigit? c)) (some 0)

-- Reads `41`, `41-5A` or `100-12E/2`: code points in base 16, the step in base 10.
def ofToken? (token : String) : Option CharRange :=
  let (span, step) := match token.splitOn "/" with
    | [span, step] => (span, step.toNat?.getD 1)
    | _ => (token, 1)
  match span.splitOn "-" with
  | [first] => (hex? first).map single
  | [first, last] => do return ⟨← hex? first, ← hex? last, step⟩
  | _ => none

def ofRows (rows : List String) : List CharRange :=
  rows.flatMap fun row => (row.splitOn " ").filterMap ofToken?

end CharRange

end AudioRules

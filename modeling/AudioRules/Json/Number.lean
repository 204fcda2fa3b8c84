import AudioRules.Decimal.Shortest
import AudioRules.Json.Basic

namespace AudioRules

namespace Numeral

-- Puts digits after `n` as long as the result fits into 64 bits. Comes with the digits that are left.
def accumulate (n : Nat) : List Nat → Nat × List Nat
  | []      => (n, [])
  | d :: ds => if 10 * n + d < UInt64.size then accumulate (10 * n + d) ds else (n, d :: ds)

def powerOfTen (n : Nat) : Float := Float.ofScientific 1 false n

-- `x · 10^e`, in steps that stay in the range of floats. Numbers beyond it have no value.
def scale : Nat → Float → Int → Option Float
  | 0, x, _ => some x
  | fuel + 1, x, e =>
    if e.natAbs ≤ 308 then
      if 0 ≤ e then
        let y := x * powerOfTen e.natAbs
        if y.isInf then none else some y
      else some (x / powerOfTen e.natAbs)
    else if x == 0 then some x
    else if 0 ≤ e then none
    else scale fuel (x / powerOfTen 308) (e + 308)

-- Into 32 bits.
def clamp (e : Int) : Int := max (-2147483648) (min 2147483647 e)

-- The float of the sign, and digits and exponent with as many digits as 64 bits hold.
def toFloat? (n : Numeral) : Option Float := do
  let (significand, left) := accumulate 0 n.whole
  let (significand, dropped) := accumulate significand n.fraction
  let places : Int := (left.length : Int) - (n.fraction.length - dropped.length : Nat)
  let x := (UInt64.ofNat significand).toFloat
  let (negative, digits) := n.exponent.getD (false, [])
  let exponent : Nat := digits.foldl (fun e d => 10 * e + d) 0
  let x ←
    if exponent < Nat.pow 2 31 then
      scale 4 x (clamp (places + if negative then -(exponent : Int) else exponent))
    else if significand != 0 && !negative then none
    else some 0
  return if n.negative then -x else x

def ofNat (n : Nat) : Numeral where
  negative := false
  whole    := (Nat.toDigits 10 n).map fun c => c.toNat - '0'.toNat
  fraction := []
  exponent := none

def value (ds : List Nat) : Nat := ds.foldl (fun n d => 10 * n + d) 0

-- A negative integer of 64 bits.
def negativeInteger? (n : Numeral) : Option Nat :=
  let m := value n.whole
  if n.negative && n.fraction.isEmpty && n.exponent.isNone && m != 0 && m ≤ Nat.pow 2 63 then some m
  else none

end Numeral

namespace Json

-- A number as it is written out again; none beyond the range of floats.
def numberText? : Json → Option String
  | natural n =>
    if n < UInt64.size then some (Nat.repr n) else (Numeral.ofNat n).toFloat?.map Decimal.ofFloat
  | decimal n =>
    match n.negativeInteger? with
    | some m => some ("-" ++ Nat.repr m)
    | none   => n.toFloat?.map Decimal.ofFloat
  | _ => none

end Json

end AudioRules

namespace AudioRules

namespace Decimal

-- The rational number `num / den`, not negative.
structure Ratio where
  num : Nat
  den : Nat
deriving DecidableEq, Repr

-- `num / den · 10^places`.
def Ratio.scaled (r : Ratio) (places : Int) : Ratio :=
  if 0 ≤ places then ⟨r.num * Nat.pow 10 places.toNat, r.den⟩
  else ⟨r.num, r.den * Nat.pow 10 (-places).toNat⟩

-- A positive binary number `m · 2^q`; `narrow` if the next lower one is only half as far.
structure Binary where
  m      : Nat
  q      : Int
  narrow : Bool
deriving DecidableEq, Repr

namespace Binary

def ratio (b : Binary) : Ratio :=
  if 0 ≤ b.q then ⟨b.m * Nat.pow 2 b.q.toNat, 1⟩ else ⟨b.m, Nat.pow 2 (-b.q).toNat⟩

-- Whether the integer `c` reads back as `b` on the scale on which `b` is `r`.
def covers (b : Binary) (r : Ratio) (c : Nat) : Bool :=
  -- with the distances as fractions of the last binary digit, of which `b` has `m`
  let steps := if b.narrow then 4 else 2
  let c := c * r.den * b.m
  let low := r.num * (b.m * steps - 1)
  let high := r.num * (b.m * 2 + 1)
  if b.m % 2 == 0 then low ≤ c * steps && c * 2 ≤ high else low < c * steps && c * 2 < high

-- The nearest integer that reads back, if one next to `b` does; of two as near the even one.
def onScale? (b : Binary) (r : Ratio) : Option Nat :=
  let c := r.num / r.den
  let below := 2 * (r.num % r.den)
  let preferLow := below < r.den || (below == r.den && c % 2 == 0)
  let (first, second) := if preferLow then (c, c + 1) else (c + 1, c)
  if b.covers r first then some first else if b.covers r second then some second else none

-- The number of digits before the point, zero or negative for numbers below a tenth.
def magnitude (r : Ratio) : Int :=
  if r.den ≤ r.num then (Nat.toDigits 10 (r.num / r.den)).length
  else
    let rec leading : Nat → Nat → Int
      | 0, _ => 0
      | fuel + 1, num => if r.den ≤ num * 10 then 0 else leading fuel (num * 10) - 1
    leading 400 r.num

-- Tries one digit more at a time; seventeen are always enough.
def search (b : Binary) (r : Ratio) (top : Int) : Nat → Nat → Nat × Int
  | 0, _ => (0, 0)
  | fuel + 1, digits =>
    let places := (digits : Int) - top
    match b.onScale? (r.scaled places) with
    | some c => (c, -places)
    | none   => b.search r top fuel (digits + 1)

-- The fewest digits `c`, and an exponent `e`, for which `c · 10^e` reads back as the number.
def shortest (b : Binary) : Nat × Int := b.search b.ratio (magnitude b.ratio) 17 1

-- The parts of a finite positive float.
def ofFloat (x : Float) : Binary :=
  let bits := x.toBits.toNat
  let fraction : Nat := bits % Nat.pow 2 52
  let exponent : Nat := bits / Nat.pow 2 52 % Nat.pow 2 11
  if exponent == 0 then ⟨fraction, -1074, false⟩
  else ⟨Nat.pow 2 52 + fraction, (exponent : Int) - 1075, fraction == 0 && 1 < exponent⟩

end Binary

-- Digits without the zeros at the end, which go into the exponent.
def strip : Nat → Nat → Int → Nat × Int
  | 0, c, e => (c, e)
  | fuel + 1, c, e => if c % 10 == 0 && c != 0 then strip fuel (c / 10) (e + 1) else (c, e)

def zeros (n : Nat) : String := String.ofList (List.replicate n '0')

-- Positional from 10⁻⁵ to below 10¹⁶, with a digit after the point at least. Beyond these, one digit
-- before the point and a signed exponent.
def layout (c : Nat) (e : Int) : String :=
  let (c, e) := strip 20 c e
  let digits := Nat.repr c
  let n : Int := digits.length
  -- where the point stands among the digits
  let point := n + e
  if c == 0 then "0.0"
  else if -5 < point && point ≤ 16 then
    if 0 ≤ e then digits ++ zeros e.toNat ++ ".0"
    else if 0 < point then
      String.ofList (digits.toList.take point.toNat) ++ "." ++
        String.ofList (digits.toList.drop point.toNat)
    else "0." ++ zeros (-point).toNat ++ digits
  else
    let first := String.ofList (digits.toList.take 1)
    let others := String.ofList (digits.toList.drop 1)
    let exponent := point - 1
    let mark := if exponent < 0 then "e-" else "e+"
    first ++ (if others.isEmpty then "" else "." ++ others) ++ mark ++ Nat.repr exponent.natAbs

-- The text of a finite float.
def ofFloat (x : Float) : String :=
  let sign := if Nat.pow 2 63 ≤ x.toBits.toNat then "-" else ""
  let x := x.abs
  if x == 0 then sign ++ "0.0"
  else
    let (c, e) := (Binary.ofFloat x).shortest
    sign ++ layout c e

end Decimal

end AudioRules

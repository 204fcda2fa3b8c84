import AudioRules.Pattern.Regex

namespace AudioRules

-- The places of a text of `n` characters are the gaps `0`, …, `n`; a set of them is a number whose
-- binary digits are its members.
abbrev Places := Nat

-- What an atom does to a set of places in one text.
inductive Move
  -- from the places before these characters to those after them
  | across (before : Places)
  | stay (here : Places)
deriving DecidableEq, Repr

namespace Move

def apply (ps : Places) : Move → Places
  | across before => (ps &&& before) <<< 1
  | stay here      => ps &&& here

end Move

namespace Places

-- The places before the members of a list that satisfy `p`.
def ofList (p : α → Bool) : List α → Places
  | []      => 0
  | a :: as => (ofList p as) <<< 1 ||| (if p a then 1 else 0)

-- `f` up to `n` times, or until it changes nothing.
def advance (f : Places → Places) : Nat → Places → Places
  | 0,     ps => ps
  | n + 1, ps => let qs := f ps; if qs == ps then ps else advance f n qs

-- Everything reached by `f` in at most `n` steps.
def spread (f : Places → Places) : Nat → Places → Places
  | 0,     ps => ps
  | n + 1, ps => let qs := ps ||| f ps; if qs == ps then ps else spread f n qs

end Places

-- The gaps of a text by their neighbours.
def gapsAfter (before : Option Char) : List Char → List (Option Char × Option Char)
  | []      => [(before, none)]
  | c :: cs => (before, some c) :: gapsAfter (some c) cs

namespace Atom

def onText (text : List Char) : Atom → Move
  | one s => .across (Places.ofList (fun c => s.contains c.toNat) text)
  | gap g => .stay (Places.ofList (fun (b, a) => g.holds b a) (gapsAfter none text))

end Atom

namespace Regex

-- The places reached from `ps`. No move goes back, so in a text of fewer than `limit` places what
-- more than `limit` repetitions reach is already reached by `limit` of them. From no place nothing is
-- reached, so moves are worked out only where some place is left.
def reach (limit : Nat) : Regex (Thunk Move) → Places → Places
  | empty,   ps => ps
  | atom m,  ps => if ps == 0 then 0 else m.get.apply ps
  | seq r s, ps => s.reach limit (r.reach limit ps)
  | alt r s, ps => r.reach limit ps ||| s.reach limit ps
  | times r least most, ps =>
    let further := match most with
      | none   => limit
      | some m => min (m - least) limit
    Places.spread (r.reach limit) further (Places.advance (r.reach limit) (min least limit) ps)

-- Whether the expression matches somewhere in the text.
def isMatch (r : Regex Atom) (text : List Char) : Bool :=
  let limit := text.length + 1
  (r.map fun a => Thunk.mk fun _ => a.onText text).reach limit (Nat.pow 2 limit - 1) != 0

end Regex

end AudioRules

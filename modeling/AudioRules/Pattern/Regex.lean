import AudioRules.Characters.Property

namespace AudioRules

-- Regular expressions over atoms `α`.
inductive Regex (α : Type)
  | empty
  | atom (a : α)
  | seq (r s : Regex α)
  | alt (r s : Regex α)
  | times (r : Regex α) (least : Nat) (most : Option Nat)
deriving DecidableEq, Repr

namespace Regex

def map (f : α → β) : Regex α → Regex β
  | empty              => empty
  | atom a             => atom (f a)
  | seq r s            => seq (r.map f) (s.map f)
  | alt r s            => alt (r.map f) (s.map f)
  | times r least most => times (r.map f) least most

def seqAll : List (Regex α) → Regex α
  | []      => empty
  | [r]     => r
  | r :: rs => seq r (seqAll rs)

def altAll : List (Regex α) → Regex α
  | []      => empty
  | [r]     => r
  | r :: rs => alt r (altAll rs)

end Regex

-- Conditions on a gap of the text, which consume nothing.
inductive Gap
  | textStart | textEnd
  | lineStart | lineEnd
  -- with the pair of carriage return and line feed as one line end
  | crlfLineStart | crlfLineEnd
  | wordEdge (ascii : Bool)
  | noWordEdge (ascii : Bool)
  | wordStart (ascii : Bool)
  | wordEnd (ascii : Bool)
  | wordStartHalf (ascii : Bool)
  | wordEndHalf (ascii : Bool)
deriving DecidableEq, Repr

namespace Gap

def isAsciiWord (c : Char) : Bool := c.isAlphanum || c == '_'

def isWord (ascii : Bool) : Option Char → Bool
  | none   => false
  | some c => if c.toNat < 0x80 then isAsciiWord c else !ascii && CharSet.word.contains c.toNat

-- Whether the condition holds between these neighbours, absent at an end of the text.
def holds (before after : Option Char) : Gap → Bool
  | textStart       => before.isNone
  | textEnd         => after.isNone
  | lineStart       => before.isNone || before == some '\n'
  | lineEnd         => after.isNone || after == some '\n'
  | crlfLineStart   => before.isNone || before == some '\n' ||
                         (before == some '\r' && after != some '\n')
  | crlfLineEnd     => after.isNone || after == some '\r' ||
                         (after == some '\n' && before != some '\r')
  | wordEdge a      => isWord a before != isWord a after
  | noWordEdge a    => isWord a before == isWord a after
  | wordStart a     => !isWord a before && isWord a after
  | wordEnd a       => isWord a before && !isWord a after
  | wordStartHalf a => !isWord a before
  | wordEndHalf a   => !isWord a after

end Gap

inductive Atom
  | one (s : CharSet)
  | gap (g : Gap)
deriving DecidableEq, Repr

end AudioRules

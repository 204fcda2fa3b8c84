import AudioRules.Characters.CaseFolding

namespace AudioRules

-- Sets of characters as they are built up.
inductive CharSet
  | ranges (rs : List CharRange)
  | union (s t : CharSet)
  | inter (s t : CharSet)
  | diff (s t : CharSet)
  | compl (s : CharSet)
  -- a character is in these if it or a case partner of it is in `s`
  | caseFold (s : CharSet)
  | asciiCaseFold (s : CharSet)
deriving DecidableEq, Repr

namespace CharSet

def contains : CharSet → Nat → Bool
  | ranges rs, n       => rs.any (·.contains n)
  | union s t, n       => s.contains n || t.contains n
  | inter s t, n       => s.contains n && t.contains n
  | diff s t, n        => s.contains n && !t.contains n
  | compl s, n         => !s.contains n
  | caseFold s, n      => s.contains n || (CaseFolding.partners n).any s.contains
  | asciiCaseFold s, n => s.contains n || (CaseFolding.asciiPartners n).any s.contains

def empty : CharSet := ranges []

def single (c : Char) : CharSet := ranges [.single c.toNat]

def range (first last : Char) : CharSet := ranges [⟨first.toNat, last.toNat, 1⟩]

def all : CharSet := compl empty

def unionAll : List CharSet → CharSet := List.foldr .union .empty

def symmDiff (s t : CharSet) : CharSet := union (diff s t) (diff t s)

end CharSet

end AudioRules

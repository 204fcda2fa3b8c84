import AudioRules.Characters.Spans
import AudioRules.Pattern.Regex

namespace AudioRules

namespace Pattern

-- Patterns in simplest form. The parts of a sequence and the branches of a choice hang to the right.
-- A part of a sequence is no sequence, a branch of a choice no choice.
inductive Form
  | empty
  | literal (cs : List Char)
  -- `bytes` if it was written outside Unicode mode
  | set (bytes : Bool) (members : List Span)
  | gap (g : Gap)
  -- `index` counts the groups of a pattern that capture
  | group (index : Nat) (f : Form)
  | times (f : Form) (least : Nat) (most : Option Nat) (greedy : Bool)
  | seq (f g : Form)
  | alt (f g : Form)
deriving DecidableEq, Repr

namespace Form

def parts : Form → List Form
  | empty   => []
  | seq f g => f :: g.parts
  | f       => [f]

def branches : Form → List Form
  | alt f g => f :: g.branches
  | f       => [f]

def isSeq : Form → Bool
  | seq _ _ => true
  | _       => false

-- Matches nothing, not even the empty text.
def never : Form := set true []

def ofParts : List Form → Form
  | []      => empty
  | [f]     => f
  | f :: fs => seq f (ofParts fs)

def ofBranches : List Form → Form
  | []      => never
  | [f]     => f
  | f :: fs => alt f (ofBranches fs)

-- A set of one character is a literal.
def oneOf (bytes : Bool) (members : List Span) : Form :=
  match members with
  | []  => never
  | [s] => if s.first == s.last then literal [Char.ofNat s.first] else set bytes members
  | _   => set bytes members

def joinLiterals : List Form → List Form
  | []      => []
  | f :: fs =>
    match f, joinLiterals fs with
    | literal cs, literal ds :: gs => literal (cs ++ ds) :: gs
    | f, gs => f :: gs

def concat (fs : List Form) : Form := ofParts (joinLiterals (fs.flatMap parts))

-- The set that a single character or a set is, if it is one.
def single? : Form → Option Span
  | literal [c] => some ⟨c.toNat, c.toNat⟩
  | _           => none

def members? : Form → Option (List Span)
  | set _ members => some members
  | _             => none

-- Branches that are all single characters or all sets are one set.
def collapse (fs : List Form) : Form :=
  let fs := fs.flatMap branches
  match fs with
  | _ :: _ :: _ =>
    match fs.mapM single? <|> (fs.mapM members?).map List.flatten with
    | some members => oneOf false (Span.sorted members)
    | none         => ofBranches fs
  | _ => ofBranches fs

-- What two lists begin with.
def sharedLead : List Form → List Form → List Form
  | f :: fs, g :: gs => if f = g then f :: sharedLead fs gs else []
  | _, _ => []

def commonLead : List (List Form) → List Form
  | []      => []
  | [l]     => l
  | l :: ls => sharedLead l (commonLead ls)

-- Sequences that begin alike are written as that beginning and a choice of what is left.
def choice (fs : List Form) : Form :=
  let f := collapse fs
  let fs := f.branches
  let lead := if 1 < fs.length && fs.all isSeq then commonLead (fs.map parts) else []
  if lead.isEmpty then f
  else concat (lead ++ [collapse (fs.map fun f => concat (f.parts.drop lead.length))])

-- Lengths, in bytes

def utf8Length (n : Nat) : Nat := (Utf8.bytes n).length

-- The length of the shortest text that matches, if texts match at all.
def minLength? : Form → Option Nat
  | empty           => some 0
  | literal cs      => some (cs.map Char.utf8Size).sum
  | set _ members   => members.head?.map fun s => utf8Length s.first
  | gap _           => some 0
  | group _ f       => f.minLength?
  | times f least _ _ => f.minLength?.map (· * least)
  | seq f g         => do return (← f.minLength?) + (← g.minLength?)
  | alt f g         => do return min (← f.minLength?) (← g.minLength?)

-- Whether the empty text is known to be the only one that matches.
def onlyEmpty : Form → Bool
  | empty         => true
  | literal cs    => cs.isEmpty
  | set _ _       => false
  | gap _         => true
  | group _ f     => f.onlyEmpty
  | times f _ _ _ => f.onlyEmpty
  | seq f g       => f.onlyEmpty && g.onlyEmpty
  | alt f g       => f.onlyEmpty && g.onlyEmpty

-- What matches only the empty text is repeated at most once.
def repeated (f : Form) (least : Nat) (most : Option Nat) (greedy : Bool) : Form :=
  let (least, most) :=
    if f.onlyEmpty then (min least 1, some (min (most.getD 1) 1)) else (least, most)
  match least, most with
  | 0, some 0 => empty
  | 1, some 1 => f
  | _, _      => times f least most greedy

-- Whether every match begins at a gap of kind `g`.
def beginsAt (g : Gap) : Form → Bool
  | gap h             => h == g
  | group _ f         => f.beginsAt g
  | times f least _ _ => 0 < least && f.beginsAt g
  | seq f h           => f.beginsAt g || (f.onlyEmpty && h.beginsAt g)
  | alt f h           => f.beginsAt g && h.beginsAt g
  | _                 => false

def endsAt (g : Gap) : Form → Bool
  | gap h             => h == g
  | group _ f         => f.endsAt g
  | times f least _ _ => 0 < least && f.endsAt g
  | seq f h           => h.endsAt g || (h.onlyEmpty && f.endsAt g)
  | alt f h           => f.endsAt g && h.endsAt g
  | _                 => false

def regex : Form → Regex Atom
  | empty               => .empty
  | literal cs          => Regex.seqAll (cs.map fun c => .atom (.one (.single c)))
  | set _ members       => .atom (.one (.ofSpans members))
  | gap g               => .atom (.gap g)
  | group _ f           => f.regex
  | times f least most _ => .times f.regex least most
  | seq f g             => .seq f.regex g.regex
  | alt f g             => .alt f.regex g.regex

end Form

end Pattern

end AudioRules

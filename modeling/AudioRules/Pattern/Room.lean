import AudioRules.Pattern.Form

namespace AudioRules

namespace Pattern

-- The nodes of the automaton of a pattern, and the bytes that they take besides their fixed part.
-- Patterns are refused whose automaton, read forward or backward, takes more than a limit.
structure Room where
  nodes : Nat := 0
  extra : Nat := 0
deriving DecidableEq, Repr

namespace Room

def bytes (r : Room) : Nat := 32 * r.nodes + r.extra

def limit : Nat := 10 * 1024 * 1024

def fits (r : Room) : Bool := r.bytes ≤ limit

def add (r : Room) (nodes extra : Nat) : Room := ⟨r.nodes + nodes, r.extra + extra⟩

def node (r : Room) : Room := r.add 1 0

-- A node from which ranges of bytes lead on.
def table (r : Room) (ranges : Nat) : Room := r.add 1 (8 * ranges)

-- A node from which one goes on without reading.
def fork (r : Room) (ways : Nat) : Room := r.add 1 (4 * ways)

-- `grow` as often as said, or until the limit is passed.
def grow (f : Room → Room) : Nat → Room → Room
  | 0,     r => r
  | n + 1, r => if r.fits then grow f n (f r) else r

-- The same for a function that adds the same room each time.
def growEvenly (f : Room → Room) (n : Nat) (r : Room) : Room :=
  let s := f r
  r.add (n * (s.nodes - r.nodes)) (n * (s.extra - r.extra))

end Room

-- A range of bytes.
abbrev ByteSpan := Nat × Nat

-- An arrow of the graph, from a node to the numbered one.
structure Arrow where
  bytes  : ByteSpan
  target : Nat
deriving DecidableEq, Repr

-- A table by number. Below the entry of `0` stand those of odd numbers and those of even ones.
inductive Numbered (α : Type)
  | empty
  | entry (a : Option α) (odd even : Numbered α)

namespace Numbered

def get? : Numbered α → Nat → Option α
  | empty, _ => none
  | entry a odd even, n =>
    if n == 0 then a else if n % 2 == 1 then odd.get? ((n - 1) / 2) else even.get? ((n - 1) / 2)

-- By fuel; numbers below `2 ^ fuel` have their place.
def put (a : α) : Nat → Nat → Numbered α → Numbered α
  | 0, _, t => t
  | fuel + 1, n, t =>
    let (b, odd, even) := match t with
      | empty            => (none, empty, empty)
      | entry b odd even => (b, odd, even)
    if n == 0 then entry (some a) odd even
    else if n % 2 == 1 then entry b (put a fuel ((n - 1) / 2) odd) even
    else entry b odd (put a fuel ((n - 1) / 2) even)

end Numbered

-- The nodes made so far by what leads on from them, so that equal nodes can be shared. A slot holds
-- the last one that fell to it, and which ones are forgotten depends on the numbers of the nodes.
structure Memory where
  slots : Nat
  known : Numbered (List Arrow × Nat) := .empty

namespace Memory

def mix (h : UInt64) (n : Nat) : UInt64 := (h ^^^ n.toUInt64) * 1099511628211

def slot (m : Memory) (key : List Nat) : Nat :=
  (key.foldl mix 14695981039346656037).toNat % m.slots

def find? (m : Memory) (slot : Nat) (arrows : List Arrow) : Option Nat :=
  match m.known.get? slot with
  | some (known, n) => if known = arrows then some n else none
  | none => none

def keep (m : Memory) (slot : Nat) (arrows : List Arrow) (n : Nat) : Memory :=
  { m with known := m.known.put (arrows, n) 16 slot }

end Memory

structure Graph where
  room   : Room
  memory : Memory

namespace Graph

-- The number of a node with these arrows, made if none is remembered.
def share (g : Graph) (key : List Nat) (arrows : List Arrow) (extra : Nat) : Nat × Graph :=
  let slot := g.memory.slot key
  match g.memory.find? slot arrows with
  | some n => (n, g)
  | none =>
    let n := g.room.nodes
    (n, ⟨g.room.add 1 extra, g.memory.keep slot arrows n⟩)

-- Neighbouring sequences that begin alike, by what they begin with.
def byHead : List (List ByteSpan) → List (ByteSpan × List (List ByteSpan))
  | []              => []
  | [] :: ss        => byHead ss
  | (b :: bs) :: ss =>
    match byHead ss with
    | (c, tails) :: rest =>
      if b == c then (c, bs :: tails) :: rest else (b, [bs]) :: (c, tails) :: rest
    | [] => [(b, [bs])]

-- The node from which these sequences lead to `target`. No sequence is longer than `depth`.
def lead (target : Nat) : Nat → List (List ByteSpan) → Graph → Nat × Graph
  | 0, _, g => (target, g)
  | depth + 1, sequences, g =>
    let (arrows, g) := (byHead sequences).foldl (fun (arrows, g) (bytes, tails) =>
      let (next, g) := if tails.all List.isEmpty then (target, g) else lead target depth tails g
      (arrows ++ [⟨bytes, next⟩], g)) ([], g)
    let key := arrows.flatMap fun a => [a.bytes.1, a.bytes.2, a.target]
    g.share key arrows (8 * arrows.length)

-- The node from which one sequence is read backward, last byte first, on to `target`.
def leadBack (target : Nat) (g : Graph) : List ByteSpan → Nat × Graph
  | []      => (target, g)
  | b :: bs =>
    let (n, g) := g.share [target, b.1, b.2] [⟨b, target⟩] 0
    leadBack n g bs

end Graph

namespace Room

-- How many bytes sequences of UTF-8 have at most.
def depth : Nat := 4

def setForward (sequences : List (List ByteSpan)) (r : Room) : Room :=
  (Graph.lead r.nodes depth sequences ⟨r.node, { slots := 10000 }⟩).2.room

def setBack (sequences : List (List ByteSpan)) (r : Room) : Room :=
  let r := r.fork sequences.length
  let target := r.nodes
  (sequences.foldl (fun g bs => (Graph.leadBack target g bs).2) ⟨r.node, { slots := 1000 }⟩).room

end Room

-- Several literals as a tree over their bytes, which keeps the order of the literals.
namespace LiteralTree

-- Divides what is left of the literals where one of them has ended, for what follows must not be
-- tried before it. Of several that end where none goes on, one counts.
def layersFrom (goesOn : Bool) (done : List (List (List Nat))) (current : List (List Nat)) :
    List (List Nat) → List (List (List Nat))
  | []             => (current.reverse :: done).reverse
  | [] :: ls       =>
    if goesOn || done.isEmpty then layersFrom goesOn (current.reverse :: done) [] ls
    else layersFrom goesOn done current ls
  | (b :: bs) :: ls => layersFrom true done ((b :: bs) :: current) ls

def layers (literals : List (List Nat)) : List (List (List Nat)) :=
  layersFrom false [] [] literals

def firsts (layer : List (List Nat)) : List Nat := (layer.filterMap List.head?).eraseDups

def tailsOf (b : Nat) (layer : List (List Nat)) : List (List Nat) :=
  (layer.filter (·.head? == some b)).map List.tail

-- By fuel, which is more than the longest literal has bytes.
def room : Nat → List (List Nat) → Room → Room
  | 0, _, r => r
  | fuel + 1, literals, r =>
    let layers := layers literals
    let heads := (layers.map firsts).filter (!·.isEmpty)
    let r := layers.foldl (fun r layer =>
      (firsts layer).foldl (fun r b =>
        let tails := tailsOf b layer
        if tails.all List.isEmpty then r else room fuel tails r) r) r
    let r := heads.foldl (fun r bs => if bs.length == 1 then r.node else r.table bs.length) r
    r.fork (heads.length + layers.length - 1)

end LiteralTree

namespace Form

-- Whether each repetition takes the same room.
def isEven : Form → Bool
  | set _ members => members.all (·.last ≤ 0x7F)
  | group _ f     => f.isEven
  | times f _ _ _ => f.isEven
  | seq f g       => f.isEven && g.isEven
  | alt f g       => f.isEven && g.isEven
  | _             => true

def setRoom (back : Bool) (members : List Span) : Room → Room :=
  if members.all (·.last ≤ 0x7F) then fun r => r.node.table members.length
  else
    let sequences := members.flatMap (Utf8.sequences 32)
    if back then Room.setBack sequences else Room.setForward sequences

-- The bytes of a literal, if it is one.
def bytes? : Form → Option (List Nat)
  | literal cs => some (cs.flatMap fun c => Utf8.bytes c.toNat)
  | _          => none

def literalsRoom (back : Bool) (literals : List (List Nat)) : Room → Room :=
  let literals := if back then literals.map List.reverse else literals
  let fuel := literals.foldl (fun n l => max n l.length) 0 + 1
  fun r => LiteralTree.room fuel literals r.node

-- The two nodes that hold branches together come after the second branch.
def branchesRoom : List (Room → Room) → Room → Room
  | [],           r => r
  | [f],          r => f r
  | f :: g :: fs, r => fs.foldl (fun r f => (f r).add 0 4) ((g (f r)).fork 2).node

def timesRoom (even nonempty : Bool) (one : Room → Room) (least : Nat) (most : Option Nat)
    (r : Room) : Room :=
  let copies (f : Room → Room) := if even then Room.growEvenly f else Room.grow f
  let required (r : Room) := if least == 0 then r.node else copies one least r
  match least, most with
  | 0, some 1 => (one (r.fork 2)).node
  | 0, none   => if nonempty then one (r.fork 2) else ((one r).fork 2).fork 2 |>.node
  | _, none   => (required r).fork 2
  | n, some m =>
    if n == m then required r
    else copies (fun r => one (r.fork 2)) (m - n) (required r).node

-- What each branch of a form adds.
def branchRooms (back : Bool) : Form → List (Room → Room)
  | empty      => [Room.node]
  | literal cs => [fun r => r.add (cs.map Char.utf8Size).sum 0]
  | set _ members => [setRoom back members]
  | gap _      => [Room.node]
  | group _ f  =>
    let inner := whole f (branchRooms back f)
    [if back then inner else fun r => (inner r.node).node]
  | times f least most _ =>
    let one := whole f (branchRooms back f)
    [timesRoom f.isEven (f.minLength?.any (0 < ·)) one least most]
  | seq f g    =>
    let first := whole f (branchRooms back f)
    let rest := whole g (branchRooms back g)
    [if back then fun r => first (rest r) else fun r => rest (first r)]
  | alt f g    => whole f (branchRooms back f) :: branchRooms back g
where
  whole (f : Form) (rooms : List (Room → Room)) : Room → Room :=
    match f, f.branches.mapM bytes? with
    | alt _ _, some literals => literalsRoom back literals
    | _, _ => branchesRoom rooms

-- The automaton that reads in one direction. Forward it also notes where a match lies.
def room (f : Form) (back : Bool) : Room :=
  let anchored := if back then f.endsAt .textEnd else f.beginsAt .textStart
  let start : Room := if anchored then Room.node {} else (Room.fork {} 2).node.table 1
  let inner := branchRooms.whole back f (branchRooms back f)
  let r := if back then inner start else (inner start.node).node
  r.node

def fits (f : Form) : Bool := (f.room false).fits && (f.room true).fits

end Form

end Pattern

end AudioRules

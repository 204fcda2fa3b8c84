import AudioRules.Characters.CharSet

namespace AudioRules

structure Span where
  first : Nat
  last  : Nat
deriving DecidableEq, Repr

namespace Span

def ofRange (r : CharRange) : List Span :=
  if r.step ≤ 1 then [⟨r.first, r.last⟩]
  else (List.range ((r.last - r.first) / r.step + 1)).map fun i =>
    let n := r.first + i * r.step
    ⟨n, n⟩

-- Into ascending spans with gaps between them; what touches becomes one span.
def insert (s : Span) : List Span → List Span
  | []      => [s]
  | t :: ts =>
    if s.last + 1 < t.first then s :: t :: ts
    else if t.last + 1 < s.first then t :: insert s ts
    else insert ⟨min s.first t.first, max s.last t.last⟩ ts

def sorted (ss : List Span) : List Span := ss.foldr insert []

-- The code points from `next` to `last` that are in none of these spans.
def between (next last : Nat) : List Span → List Span
  | [] => if next ≤ last then [⟨next, last⟩] else []
  | s :: ss =>
    let others := between (s.last + 1) last ss
    if next < s.first then ⟨next, s.first - 1⟩ :: others else others

-- Surrogates are code points, but no characters.
def surrogates : Span := ⟨0xD800, 0xDFFF⟩

def compl (ss : List Span) : List Span := between 0 0x10FFFF (sorted (surrogates :: ss))

def contains (n : Nat) (ss : List Span) : Bool := ss.any fun s => s.first ≤ n && n ≤ s.last

def caseFold (ss : List Span) : List Span :=
  let families := CaseFolding.families.filter (·.any (contains · ss))
  let paired := CaseFolding.pairs.flatMap fun p =>
    (ofRange p.lower).flatMap fun s =>
      (List.range (s.last + 1 - s.first)).flatMap fun i =>
        let n := s.first + i
        let m := n + p.distance
        (if contains n ss then [⟨m, m⟩] else []) ++ (if contains m ss then [⟨n, n⟩] else [])
  sorted (ss ++ paired ++ families.flatten.map fun n => ⟨n, n⟩)

def asciiCaseFold (ss : List Span) : List Span :=
  let paired := (List.range 0x80).filter fun n => (CaseFolding.asciiPartners n).any (contains · ss)
  sorted (ss ++ paired.map fun n => ⟨n, n⟩)

end Span

namespace CharSet

def spans : CharSet → List Span
  | ranges rs       => Span.sorted (rs.flatMap Span.ofRange)
  | union s t       => Span.sorted (s.spans ++ t.spans)
  | inter s t       => Span.compl (Span.compl s.spans ++ Span.compl t.spans)
  | diff s t        => Span.compl (Span.compl s.spans ++ t.spans)
  | compl s         => Span.compl s.spans
  | caseFold s      => Span.caseFold s.spans
  | asciiCaseFold s => Span.asciiCaseFold s.spans

-- The members alone, without code points that are no characters.
def members (s : CharSet) : List Span := Span.compl (Span.compl s.spans)

def ofSpans (ss : List Span) : CharSet := ranges (ss.map fun s => ⟨s.first, s.last, 1⟩)

end CharSet

namespace Utf8

-- The last code point that takes `n` bytes.
def lastOfLength : Nat → Nat
  | 1 => 0x7F
  | 2 => 0x7FF
  | 3 => 0xFFFF
  | _ => 0x10FFFF

def bytes (n : Nat) : List Nat :=
  if n ≤ 0x7F then [n]
  else if n ≤ 0x7FF then [0xC0 + n / 64, 0x80 + n % 64]
  else if n ≤ 0xFFFF then [0xE0 + n / 4096, 0x80 + n / 64 % 64, 0x80 + n % 64]
  else [0xF0 + n / 262144, 0x80 + n / 4096 % 64, 0x80 + n / 64 % 64, 0x80 + n % 64]

-- Where to divide a span so that each part is a product of byte ranges.
def division? (first last : Nat) : Option Nat :=
  let byLength := [1, 2, 3].findSome? fun i =>
    let top := lastOfLength i
    if first ≤ top && top < last then some top else none
  let byBlock := [64, 4096, 262144].findSome? fun size =>
    if first / size != last / size then
      if first % size != 0 then some (first / size * size + size - 1)
      else if last % size != size - 1 then some (last / size * size - 1)
      else none
    else none
  byLength <|> if last ≤ 0x7F then none else byBlock

-- The byte ranges, by fuel; a span needs at most some dozens of divisions.
def sequences : Nat → Span → List (List (Nat × Nat))
  | 0, _ => []
  | fuel + 1, s =>
    match division? s.first s.last with
    | some m => sequences fuel ⟨s.first, m⟩ ++ sequences fuel ⟨m + 1, s.last⟩
    | none   => [(bytes s.first).zip (bytes s.last)]

end Utf8

end AudioRules

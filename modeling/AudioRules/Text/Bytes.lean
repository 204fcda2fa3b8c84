namespace AudioRules

abbrev Bytes := List UInt8

namespace Bytes

-- A character of which some bytes were read.
structure Open where
  value  : Nat
  taken  : Nat
  -- how many bytes follow after the next one
  others : Nat
  -- the limits of the next byte
  low    : Nat := 0x80
  high   : Nat := 0xBF
deriving DecidableEq, Repr

-- What a run of bytes stands for.
inductive Piece
  | char (c : Char)
  -- the longest beginning of a character that the next byte does not go on with, or a stray byte
  | invalid (length : Nat)
  -- the beginning of a character at the end
  | incomplete
deriving DecidableEq, Repr

-- The first byte of a character. Neither longer forms than needed nor surrogates are let in.
def first (b : Nat) : Piece ⊕ Open :=
  if b < 0x80 then .inl (.char (Char.ofNat b))
  else if 0xC2 ≤ b ∧ b ≤ 0xDF then .inr { value := b - 0xC0, taken := 1, others := 0 }
  else if b = 0xE0 then .inr { value := 0, taken := 1, others := 1, low := 0xA0 }
  else if b = 0xED then .inr { value := 0xD, taken := 1, others := 1, high := 0x9F }
  else if 0xE1 ≤ b ∧ b ≤ 0xEF then .inr { value := b - 0xE0, taken := 1, others := 1 }
  else if b = 0xF0 then .inr { value := 0, taken := 1, others := 2, low := 0x90 }
  else if 0xF1 ≤ b ∧ b ≤ 0xF3 then .inr { value := b - 0xF0, taken := 1, others := 2 }
  else if b = 0xF4 then .inr { value := 4, taken := 1, others := 2, high := 0x8F }
  else .inl (.invalid 1)

-- The next byte of a character, if it is one.
def Open.next? (o : Open) (b : Nat) : Option (Piece ⊕ Open) :=
  if o.low ≤ b ∧ b ≤ o.high then
    let value := o.value * 64 + (b - 0x80)
    match o.others with
    | 0          => some (.inl (.char (Char.ofNat value)))
    | others + 1 => some (.inr { value, taken := o.taken + 1, others })
  else
    none

def emit : Piece ⊕ Open → List Piece × Option Open
  | .inl piece => ([piece], none)
  | .inr o     => ([], some o)

-- The pieces that a byte completes, and the character that it leaves open.
def step (state : Option Open) (b : Nat) : List Piece × Option Open :=
  match state with
  | none   => emit (first b)
  | some o =>
    match o.next? b with
    | some result => emit result
    | none        =>
      let (pieces, state) := emit (first b)
      (.invalid o.taken :: pieces, state)

def piecesFrom (state : Option Open) : Bytes → List Piece
  | []      => if state.isSome then [.incomplete] else []
  | b :: bs =>
    let (pieces, state) := step state b.toNat
    pieces ++ piecesFrom state bs

def pieces (bs : Bytes) : List Piece := piecesFrom none bs

def Piece.char? : Piece → Option Char
  | .char c => some c
  | _       => none

-- The text, if the bytes are one.
def text? (bs : Bytes) : Option String := ((pieces bs).mapM Piece.char?).map String.ofList

-- The text with a substitute for every piece that is no character.
def lossyText (bs : Bytes) : String :=
  String.ofList ((pieces bs).map fun p => p.char?.getD '\uFFFD')

-- Why bytes are no text, by the first piece that is no character, `index` bytes behind.
def flawFrom? (index : Nat) : List Piece → Option String
  | [] => none
  | .char c :: ps => flawFrom? (index + c.utf8Size) ps
  | .invalid length :: _ =>
    some s!"invalid utf-8 sequence of {length} bytes from index {index}"
  | .incomplete :: _ => some s!"incomplete utf-8 byte sequence from index {index}"

def flaw? (bs : Bytes) : Option String := flawFrom? 0 (pieces bs)

def ofString (s : String) : Bytes := s.toUTF8.toList

end Bytes

end AudioRules

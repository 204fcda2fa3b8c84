import AudioRules.Characters.Range
import AudioRules.Json.Basic

namespace AudioRules

namespace Json

def isSpace (c : Char) : Bool := c == ' ' || c == '\n' || c == '\t' || c == '\r'

def skipSpace (cs : List Char) : List Char := cs.dropWhile isSpace

-- Strings

-- A character of a string, or half of a surrogate pair.
inductive StringUnit
  | char (c : Char)
  | lead (n : Nat)
  | trail (n : Nat)

namespace StringUnit

def ofCode (n : Nat) : StringUnit :=
  if 0xD800 ≤ n && n < 0xDC00 then .lead n
  else if 0xDC00 ≤ n && n < 0xE000 then .trail n
  else .char (Char.ofNat n)

-- Joins the halves; one without the other makes no text.
def join? : List StringUnit → Option (List Char)
  | [] => some []
  | .char c :: us => (join? us).map (c :: ·)
  | .lead n :: .trail m :: us =>
    (join? us).map (Char.ofNat (0x10000 + (n - 0xD800) * 0x400 + (m - 0xDC00)) :: ·)
  | _ => none

end StringUnit

def simpleEscape? : Char → Option Char
  | '"'  => some '"'
  | '\\' => some '\\'
  | '/'  => some '/'
  | 'b'  => some '\x08'
  | 'f'  => some '\x0c'
  | 'n'  => some '\n'
  | 'r'  => some '\r'
  | 't'  => some '\t'
  | _    => none

def hex4? (a b c d : Char) : Option Nat := do
  let a ← CharRange.hexDigit? a
  let b ← CharRange.hexDigit? b
  let c ← CharRange.hexDigit? c
  let d ← CharRange.hexDigit? d
  return ((a * 16 + b) * 16 + c) * 16 + d

-- The rest of a string after its opening quote; `us` was read of it, the latest first.
def readUnits (us : List StringUnit) : List Char → Option (List StringUnit × List Char)
  | [] => none
  | '"' :: cs => some (us.reverse, cs)
  | '\\' :: 'u' :: a :: b :: c :: d :: cs =>
    match hex4? a b c d with
    | some n => readUnits (.ofCode n :: us) cs
    | none => none
  | '\\' :: c :: cs =>
    match simpleEscape? c with
    | some c => readUnits (.char c :: us) cs
    | none => none
  | c :: cs => if c.toNat < 0x20 || c == '\\' then none else readUnits (.char c :: us) cs

def readString (cs : List Char) : Option (Option String × List Char) :=
  (readUnits [] cs).map fun (us, rest) => ((StringUnit.join? us).map String.ofList, rest)

-- Numbers

def digitValue (c : Char) : Nat := c.toNat - '0'.toNat

def takeDigits (cs : List Char) : List Nat × List Char :=
  ((cs.takeWhile Char.isDigit).map digitValue, cs.dropWhile Char.isDigit)

def ofDigits (ds : List Nat) : Nat := ds.foldl (fun n d => 10 * n + d) 0

def readFraction : List Char → Option (List Nat × List Char)
  | '.' :: cs =>
    let (ds, rest) := takeDigits cs
    if ds.isEmpty then none else some (ds, rest)
  | cs => some ([], cs)

def readExponent : List Char → Option (Option (Bool × List Nat) × List Char)
  | c :: cs =>
    if c == 'e' || c == 'E' then
      let (negative, cs) := match cs with
        | '+' :: cs => (false, cs)
        | '-' :: cs => (true, cs)
        | cs        => (false, cs)
      let (ds, rest) := takeDigits cs
      if ds.isEmpty then none else some (some (negative, ds), rest)
    else some (none, c :: cs)
  | [] => some (none, [])

-- No digit may follow a leading zero.
def readNumber (cs : List Char) : Option (Json × List Char) := do
  let (negative, cs) := match cs with
    | '-' :: cs => (true, cs)
    | cs        => (false, cs)
  let (whole, cs) := takeDigits cs
  if whole.isEmpty || (whole.head? == some 0 && whole.length != 1) then none
  let (fraction, cs) ← readFraction cs
  let (exponent, cs) ← readExponent cs
  if !negative && fraction.isEmpty && exponent.isNone then
    return (.natural (ofDigits whole), cs)
  else
    return (.decimal { negative, whole, fraction, exponent }, cs)

-- Values

def readWord (word : String) (value : Json) (cs : List Char) : Option (Json × List Char) :=
  if word.toList.isPrefixOf cs then some (value, cs.drop word.length) else none

mutual

-- Every call takes a character at least, so the length of the text is fuel enough.
def readValue : Nat → List Char → Option (Json × List Char)
  | 0, _ => none
  | fuel + 1, cs =>
    match skipSpace cs with
    | 'n' :: cs => readWord "null" .null ('n' :: cs)
    | 't' :: cs => readWord "true" (.bool true) ('t' :: cs)
    | 'f' :: cs => readWord "false" (.bool false) ('f' :: cs)
    | '"' :: cs => (readString cs).map fun (s, rest) => (.text s, rest)
    | '[' :: cs =>
      match skipSpace cs with
      | ']' :: rest => some (.array [], rest)
      | cs => (readItems fuel cs).map fun (items, rest) => (.array items, rest)
    | '\x7b' :: cs =>
      match skipSpace cs with
      | '\x7d' :: rest => some (.object [], rest)
      | cs => (readFields fuel cs).map fun (fields, rest) => (.object fields, rest)
    | cs => readNumber cs

def readItems : Nat → List Char → Option (List Json × List Char)
  | 0, _ => none
  | fuel + 1, cs =>
    match readValue fuel cs with
    | none => none
    | some (item, rest) =>
      match skipSpace rest with
      | ',' :: cs => (readItems fuel cs).map fun (items, rest) => (item :: items, rest)
      | ']' :: rest => some ([item], rest)
      | _ => none

def readFields : Nat → List Char → Option (List (Option String × Json) × List Char)
  | 0, _ => none
  | fuel + 1, cs =>
    match skipSpace cs with
    | '"' :: cs =>
      match readString cs with
      | none => none
      | some (key, rest) =>
        match skipSpace rest with
        | ':' :: cs =>
          match readValue fuel cs with
          | none => none
          | some (value, rest) =>
            match skipSpace rest with
            | ',' :: cs =>
              (readFields fuel cs).map fun (fields, rest) => ((key, value) :: fields, rest)
            | '\x7d' :: rest => some ([(key, value)], rest)
            | _ => none
        | _ => none
    | _ => none

end

-- A document is one value with nothing but space around it.
def read? (text : String) : Option Json := do
  let (value, rest) ← readValue (text.length + 1) text.toList
  guard (skipSpace rest).isEmpty
  return value

end Json

end AudioRules

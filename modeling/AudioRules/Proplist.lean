import AudioRules.Error
import AudioRules.KeyMap
import AudioRules.Text.Blank

namespace AudioRules

abbrev Proplist := KeyMap String

namespace Proplist

def isSeparator (c : Char) : Bool := Text.isBlank c || c == ','

def isKeyEnd (c : Char) : Bool := c == '=' || isSeparator c

inductive Flaw
  -- a key is empty or has no value
  | noPair
  | openQuote
deriving DecidableEq, Repr

def Flaw.message (text : String) : Flaw → String
  | noPair    => s!"invalid property definition '{text}'"
  | openQuote => s!"unterminated quote in '{text}'"

-- The value after an equals sign, and what follows it.
def value : List Char → Except Flaw (List Char × List Char)
  | '"' :: cs =>
    match cs.dropWhile (· != '"') with
    | _ :: rest => .ok (cs.takeWhile (· != '"'), rest)
    | [] => .error .openQuote
  | cs => .ok (cs.takeWhile (!isSeparator ·), cs.dropWhile (!isSeparator ·))

-- The pair that a text begins with, and what follows it.
def pair (cs : List Char) : Except Flaw ((List Char × List Char) × List Char) :=
  let key := cs.takeWhile (!isKeyEnd ·)
  match key, cs.dropWhile (!isKeyEnd ·) with
  | _ :: _, '=' :: cs => (value cs).map fun (value, rest) => ((key, value), rest)
  | _, _ => .error .noPair

-- Every pair takes a character at least, so the length of the text is fuel enough.
def pairs : Nat → List Char → Except Flaw (List (List Char × List Char))
  | 0, _ => .ok []
  | fuel + 1, cs =>
    match cs.dropWhile isSeparator with
    | [] => .ok []
    | cs => do
      let (p, rest) ← pair cs
      return p :: (← pairs fuel rest)

-- Pairs `key=value` between blanks and commas, the value in double quotes if it holds some.
def parse (text : String) : Except PolicyError Proplist :=
  match pairs (text.length + 1) text.toList with
  | .ok ps      => .ok (KeyMap.ofList (ps.map fun (k, v) => (String.ofList k, String.ofList v)))
  | .error flaw => .error (.config (flaw.message text))

end Proplist

end AudioRules

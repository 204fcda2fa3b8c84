import AudioRules.Characters.Newer
import AudioRules.Pattern.Named
import AudioRules.Pattern.Room
import AudioRules.Text.Blank
import AudioRules.Text.Cut

namespace AudioRules

namespace Pattern

-- The modes that a pattern switches on and off for what follows in the same group.
structure Modes where
  ignoreCase : Bool := false
  multiLine  : Bool := false
  dotAll     : Bool := false
  crlf       : Bool := false
  unicode    : Bool := true
  verbose    : Bool := false
  -- whether a question mark after a repetition makes it greedy
  swapGreed  : Bool := false
deriving DecidableEq, Repr

namespace Modes

def assign? (m : Modes) (letter : Char) (on : Bool) : Option Modes :=
  match letter with
  | 'i' => some { m with ignoreCase := on }
  | 'm' => some { m with multiLine := on }
  | 's' => some { m with dotAll := on }
  | 'R' => some { m with crlf := on }
  | 'u' => some { m with unicode := on }
  | 'x' => some { m with verbose := on }
  | 'U' => some { m with swapGreed := on }
  | _   => none

-- Reads letters such as `im-s` up to a colon or a closing parenthesis, which comes with the result.
-- No letter and no hyphen stands twice, and a hyphen has a letter after it.
def read (m : Modes) (seen : List Char) (on : Bool) :
    List Char → Option (Modes × List Char × Char × List Char)
  | [] => none
  | c :: cs =>
    if c == ':' || c == ')' then
      if seen.head? == some '-' then none else some (m, seen, c, cs)
    else if seen.contains c then none
    else if c == '-' then m.read (c :: seen) false cs
    else match m.assign? c on with
      | some m => m.read (c :: seen) on cs
      | none   => none

end Modes

structure Cursor where
  rest  : List Char
  modes : Modes := {}
  -- names of groups so far
  names : List (List Char) := []
  -- how many groups have been opened that capture
  captures : Nat := 0

-- Fails on a text that is no pattern.
abbrev Reader := StateT Cursor Option

namespace Reader

def fail : Reader α := fun _ => none

def lift (a : Option α) : Reader α := fun s => a.map fun a => (a, s)

def rest : Reader (List Char) := fun s => some (s.rest, s)

def modes : Reader Modes := fun s => some (s.modes, s)

def setRest (cs : List Char) : Reader Unit := fun s => some ((), { s with rest := cs })

def setModes (m : Modes) : Reader Unit := fun s => some ((), { s with modes := m })

def peek : Reader (Option Char) := return (← rest).head?

def need : Reader Char := do lift (← peek)

def skip : Reader Unit := do setRest (← rest).tail

-- Without blanks and without comments, which run from `#` to the end of the line.
def dropFiller (inComment : Bool) : List Char → List Char
  | [] => []
  | c :: cs =>
    if inComment then dropFiller (c != '\n') cs
    else if Text.isBlank c then dropFiller false cs
    else if c == '#' then dropFiller true cs
    else c :: cs

-- In verbose mode, filler between the parts of a pattern means nothing.
def skipFiller : Reader Unit := do
  if (← modes).verbose then setRest (dropFiller false (← rest))

def skipWithFiller : Reader Unit := do
  skip
  skipFiller

-- The character after the next one.
def peekSecond : Reader (Option Char) := return (← rest).tail.head?

-- The first character past blanks, where one `#` among them counts as a blank.
def pastBlanks (cs : List Char) : Option Char :=
  let found := match Text.dropBlanks cs with
    | '#' :: ds => Text.dropBlanks ds
    | ds        => ds
  found.head? <|> cs.head?

-- The character after the next one, in verbose mode past blanks.
def peekPastBlanks : Reader (Option Char) := do
  let after := (← rest).tail
  return if (← modes).verbose then pastBlanks after else after.head?

def expect (c : Char) : Reader Unit := do
  if (← need) == c then skip else fail

-- Everything between the brace that is next and its closing one, which stays next.
def inBraces : Nat → Reader (List Char)
  | 0 => fail
  | fuel + 1 => do
    skipWithFiller
    let c ← need
    if c == '\x7d' then return []
    return c :: (← inBraces fuel)

def fuel : Reader Nat := return (← rest).length + 1

end Reader

open Reader

-- Escapes

-- What a primitive stands for, alone or as a member of a set.
inductive Primitive
  -- `byte` if written as the number of a byte
  | literal (c : Char) (byte : Bool)
  | set (s : CharSet)
  | gap (g : Gap)

def scalar? (n : Nat) : Option Char := if n.isValidChar then some (Char.ofNat n) else none

def hexValue? (digits : List Char) : Option Nat :=
  digits.foldl (fun acc c => do return (← acc) * 16 + (← CharRange.hexDigit? c)) (some 0)

def hexDigits : Nat → Reader (List Char)
  | 0 => return []
  | n + 1 => do
    let c ← need
    skipWithFiller
    return c :: (← hexDigits n)

-- The number after `x`, `u` or `U`: so many digits, or any number of them in braces.
def hexEscape (width : Nat) : Reader Primitive := do
  skipWithFiller
  if (← need) == '\x7b' then
    let digits ← inBraces (← fuel)
    skipWithFiller
    if digits.isEmpty then fail
    else
      let c ← lift ((hexValue? digits).bind scalar?)
      return .literal c false
  else
    let c ← lift ((hexValue? (← hexDigits width)).bind scalar?)
    return .literal c (width == 2)

def foldIf (m : Modes) (s : CharSet) : CharSet :=
  if m.ignoreCase then
    if m.unicode then .caseFold s else .asciiCaseFold s
  else s

def complIf (negated : Bool) (s : CharSet) : CharSet := if negated then .compl s else s

-- Splits `name!=value`, `name:value` and `name=value`, in this order of preference.
def splitQuery (query : List Char) : Option (List Char × Bool × List Char) :=
  let rec atNotEqual (seen : List Char) : List Char → Option (List Char × Bool × List Char)
    | '!' :: '=' :: value => some (seen.reverse, true, value)
    | c :: cs => atNotEqual (c :: seen) cs
    | [] => none
  let at1 (sep : Char) : Option (List Char × Bool × List Char) :=
    if query.contains sep then
      some (query.takeWhile (· != sep), false, (query.dropWhile (· != sep)).tail)
    else none
  atNotEqual [] query <|> at1 ':' <|> at1 '='

-- Named sets are for Unicode mode only.
def unicodeSet (negated : Bool) (s : CharSet) : Reader Primitive := do
  let m ← modes
  if m.unicode then return .set (complIf negated (foldIf m s)) else fail

def namedSet (negated : Bool) : Reader Primitive := do
  skipWithFiller
  let c ← need
  if c == '\x7b' then
    let query ← inBraces (← fuel)
    skip
    match splitQuery query with
    | some (name, notEqual, value) => do
      let set ← lift (CharSet.ofPropertyValue? name value)
      unicodeSet (negated != notEqual) set
    | none => do
      let set ← lift (CharSet.ofName? query)
      unicodeSet negated set
  else if c == '\\' then fail
  else
    skipWithFiller
    let set ← lift (CharSet.ofName? [c])
    unicodeSet negated set

-- Digits, blanks or words; without Unicode no complement, which would hold half characters.
def shorthandSet (unicode ascii : CharSet) (negated : Bool) : Reader Primitive := do
  skip
  if (← modes).unicode then return .set (complIf negated unicode)
  else if negated then fail
  else return .set ascii

def wordEdgeName? : String → Option (Bool → Gap)
  | "start"      => some .wordStart
  | "end"        => some .wordEnd
  | "start-half" => some .wordStartHalf
  | "end-half"   => some .wordEndHalf
  | _            => none

def isEdgeLetter (c : Char) : Bool := c.isAlpha || c == '-'

def edgeName : Nat → Reader (List Char)
  | 0 => fail
  | fuel + 1 => do
    let c ← need
    if isEdgeLetter c then
      skipWithFiller
      return c :: (← edgeName fuel)
    else return []

-- After `\b`: the name of a special word edge in braces, unless they hold a repetition count.
def wordEdge (ascii : Bool) : Reader Primitive := do
  if (← peek) == some '\x7b' then
    let before ← rest
    skipWithFiller
    if isEdgeLetter (← need) then
      let name ← edgeName (← fuel)
      expect '\x7d'
      let gap ← lift (wordEdgeName? (String.ofList name))
      return .gap (gap ascii)
    else
      setRest before
      return .gap (.wordEdge ascii)
  else return .gap (.wordEdge ascii)

-- ASCII characters other than letters, digits and angle brackets stand for themselves.
def isEscapable (c : Char) : Bool :=
  c.toNat < 0x80 && !c.isAlphanum && c != '<' && c != '>'

def escape : Reader Primitive := do
  skip
  let c ← need
  let ascii := !(← modes).unicode
  match c with
  | 'x' => hexEscape 2
  | 'u' => hexEscape 4
  | 'U' => hexEscape 8
  | 'p' => namedSet false
  | 'P' => namedSet true
  | 'd' => shorthandSet .decimalDigit .asciiDigit false
  | 'D' => shorthandSet .decimalDigit .asciiDigit true
  | 's' => shorthandSet .whiteSpace .asciiSpace false
  | 'S' => shorthandSet .whiteSpace .asciiSpace true
  | 'w' => shorthandSet .word .asciiWord false
  | 'W' => shorthandSet .word .asciiWord true
  | _ => do
    skip
    match c with
    | 'a' => return .literal '\x07' false
    | 'f' => return .literal '\x0c' false
    | 't' => return .literal '\t' false
    | 'n' => return .literal '\n' false
    | 'r' => return .literal '\r' false
    | 'v' => return .literal '\x0b' false
    | 'A' => return .gap .textStart
    | 'z' => return .gap .textEnd
    | 'b' => wordEdge ascii
    | 'B' => return .gap (.noWordEdge ascii)
    | '<' => return .gap (.wordStart ascii)
    | '>' => return .gap (.wordEnd ascii)
    | _   => if isEscapable c then return .literal c false else fail

-- Sets in brackets

-- A part of a set expression, and how deep parts are nested in it.
structure SetPart where
  set   : CharSet
  depth : Nat := 0

inductive SetOperator
  | intersection | difference | symmetricDifference

-- The operator that is written with these two characters.
def SetOperator.ofChars? (c : Char) (second : Option Char) : Option SetOperator :=
  if c == '&' && second == some '&' then some intersection
  else if c == '-' && second == some '-' then some difference
  else if c == '~' && second == some '~' then some symmetricDifference
  else none

namespace SetPart

def union : List SetPart → SetPart
  | []  => ⟨.empty, 0⟩
  | [p] => p
  | ps  => ⟨ps.foldl (fun s p => .union s p.set) .empty, ps.foldl (fun d p => max d p.depth) 0 + 1⟩

def combine (m : Modes) (o : SetOperator) (l r : SetPart) : SetPart :=
  let s := foldIf m l.set
  let t := foldIf m r.set
  let set := match o with
    | .intersection        => CharSet.inter s t
    | .difference          => CharSet.diff s t
    | .symmetricDifference => CharSet.symmDiff s t
  ⟨set, max l.depth r.depth + 1⟩

-- The expression before the last operator, and the members after it, the latest first.
def soFar (m : Modes) (left : Option (SetPart × SetOperator)) (members : List SetPart) : SetPart :=
  let right := union members.reverse
  match left with
  | none        => right
  | some (l, o) => combine m o l right

-- Outside Unicode mode sets hold bytes, and a byte from 0x80 on is no character.
def isText (m : Modes) (s : CharSet) : Bool := m.unicode || !s.contains 0x80

def bracketed? (m : Modes) (negated : Bool) (p : SetPart) : Option SetPart :=
  let s := complIf negated (foldIf m p.set)
  if isText m s then some ⟨s, p.depth + 1⟩ else none

end SetPart

-- A literal as the end of a range.
def rangeEnd : Primitive → Reader Char
  | .literal c _ => do
    if (← modes).unicode || c.toNat < 0x80 then return c else fail
  | _ => fail

def setMember : Primitive → Reader SetPart
  | .set s => return { set := s }
  | .gap _ => fail
  | p      => return { set := .single (← rangeEnd p) }

def setPrimitive : Reader Primitive := do
  let c ← need
  if c == '\\' then escape
  else
    skip
    return .literal c false

-- The member, or the range that begins with it.
def rangeFrom (first : Primitive) : Reader SetPart := do
  skipFiller
  let c ← need
  let after ← peekPastBlanks
  if c != '-' || after == some ']' || after == some '-' then
    setMember first
  else
    skipWithFiller
    let first ← rangeEnd first
    let last ← rangeEnd (← setPrimitive)
    if last < first then fail else return { set := .range first last }

def setRange : Reader SetPart := do rangeFrom (← setPrimitive)

-- The class that is named up to `:]`.
def namedClass? (m : Modes) (negated : Bool) (cs : List Char) : Option (SetPart × List Char) :=
  match Text.cutChars? ':' cs with
  | some (name, ']' :: ds) =>
    (CharSet.asciiClass? (String.ofList name)).map fun s =>
      ({ set := complIf negated (foldIf m s) }, ds)
  | _ => none

-- `[:name:]` or `[:^name:]`, if that is what comes next.
def asciiClass? (m : Modes) : List Char → Option (SetPart × List Char)
  | '[' :: ':' :: '^' :: cs => namedClass? m true cs
  | '[' :: ':' :: cs        => namedClass? m false cs
  | _                       => none

def hyphens : Nat → Reader (List SetPart)
  | 0 => fail
  | fuel + 1 => do
    if (← need) == '-' then
      skipWithFiller
      return { set := .single '-' } :: (← hyphens fuel)
    else return []

-- Members that can only stand first: hyphens, or else a closing bracket.
def leading : Reader (List SetPart) := do
  let ps ← hyphens (← fuel)
  if ps.isEmpty && (← need) == ']' then
    skipWithFiller
    return [{ set := .single ']' }]
  else return ps

-- After an opening bracket: whether the set is negated, and what can only stand here.
def setOpening : Reader (Bool × List SetPart) := do
  skipWithFiller
  if (← need) == '^' then
    skipWithFiller
    return (true, ← leading)
  else return (false, ← leading)

-- An ASCII class, if that is what comes next.
def setClass : Reader (Option SetPart) := do
  let m ← modes
  match asciiClass? m (← rest) with
  | some (p, cs) =>
    if SetPart.isText m p.set then
      setRest cs
      return some p
    else fail
  | none => return none

-- An operator, if that is what comes next.
def setOperator : Reader (Option SetOperator) := do
  let c ← need
  match SetOperator.ofChars? c (← peekSecond) with
  | some o => do
    skip
    skip
    return some o
  | none => return none

-- Reads on to the closing bracket. `left` is the expression before the last operator, `members`
-- are those after it, the latest first.
def setBody : Nat → Bool → Option (SetPart × SetOperator) → List SetPart → Reader SetPart
  | 0, _, _, _ => fail
  | fuel + 1, negated, left, members => do
    skipFiller
    let c ← need
    let m ← modes
    if c == '[' then
      match ← setClass with
      | some p => setBody fuel negated left (p :: members)
      | none => do
        let (inner, opening) ← setOpening
        let p ← setBody fuel inner none opening
        setBody fuel negated left (p :: members)
    else if c == ']' then
      skip
      lift (SetPart.bracketed? m negated (.soFar m left members))
    else
      match ← setOperator with
      | some o => setBody fuel negated (some (.soFar m left members, o)) []
      | none => do
        let p ← setRange
        setBody fuel negated left (p :: members)

def bracketSet : Reader SetPart := do
  let fuel ← fuel
  let (negated, opening) ← setOpening
  setBody fuel negated none opening

-- Expressions

-- A part of a pattern.
structure Piece where
  form       : Form
  -- how deep parts are nested in it
  depth      : Nat := 0
  repeatable : Bool := true

namespace Piece

def gap (g : Gap) : Piece := { form := .gap g }

-- How deep the deepest of these is, and one more for what holds them.
def depthOver (ps : List Piece) : Nat := ps.foldl (fun d p => max d p.depth) 0 + 1

def concat : List Piece → Piece
  | [p] => p
  | []  => { form := .empty }
  | ps  => { form := .concat (ps.map (·.form)), depth := depthOver ps }

def choice : List Piece → Piece
  | [p] => p
  | ps  => { form := .choice (ps.map (·.form)), depth := depthOver ps }

-- With the number of the group, if it captures.
def grouped (p : Piece) : Option Nat → Piece
  | some index => { form := .group index p.form, depth := p.depth + 1 }
  | none       => { form := p.form, depth := p.depth + 1 }

def times? (p : Piece) (least : Nat) (most : Option Nat) (greedy : Bool) : Option Piece :=
  if p.repeatable && most.all (least ≤ ·) then
    some { form := p.form.repeated least most greedy, depth := p.depth + 1 }
  else none

-- A change of modes, which is nothing that could be repeated.
def directive : Piece := { form := .empty, repeatable := false }

def set (m : Modes) (s : CharSet) (depth : Nat) : Piece :=
  { form := .oneOf (!m.unicode) s.members, depth := depth }

-- The character, with its case partners where case is ignored.
def literal (m : Modes) (c : Char) : Piece :=
  let partners :=
    if !m.ignoreCase then []
    else if m.unicode then CaseFolding.partners c.toNat
    else CaseFolding.asciiPartners c.toNat
  if partners.isEmpty then { form := .literal [c] } else .set m (foldIf m (.single c)) 0

def ofPrimitive? (m : Modes) : Primitive → Option Piece
  | .literal c byte => if byte && !m.unicode && 0x80 ≤ c.toNat then none else some (.literal m c)
  | .set s          => some (.set m s 0)
  | .gap g          => some (.gap g)

end Piece

-- Any character; without `s` none that ends a line.
def dot? (m : Modes) : Option CharSet :=
  if !m.unicode then none
  else if m.dotAll then some .all
  else if m.crlf then some (.compl (.ranges [.single 0xA, .single 0xD]))
  else some (.compl (.single '\n'))

def lineStart (m : Modes) : Gap :=
  if !m.multiLine then .textStart else if m.crlf then .crlfLineStart else .lineStart

def lineEnd (m : Modes) : Gap :=
  if !m.multiLine then .textEnd else if m.crlf then .crlfLineEnd else .lineEnd

-- Whether the repetition that has just been read is greedy.
def greedy : Reader Bool := do
  let swapped := (← modes).swapGreed
  if (← peek) == some '?' then
    skip
    return swapped
  else return !swapped

def digits : Nat → Reader (List Char)
  | 0 => return []
  | fuel + 1 => do
    match ← peek with
    | some c =>
      if c.isDigit then
        skipWithFiller
        return c :: (← digits fuel)
      else return []
    | none => return []

def skipBlanks : Reader Unit := do setRest (Text.dropBlanks (← rest))

-- The number below 2³² that these digits write.
def number? (ds : List Char) : Option Nat :=
  let n := ds.foldl (fun n d => 10 * n + (d.toNat - '0'.toNat)) 0
  if ds.isEmpty || UInt32.size ≤ n then none else some n

-- A number between blanks.
def count : Reader Nat := do
  skipBlanks
  let ds ← digits (← fuel)
  skipBlanks
  lift (number? ds)

-- The greatest number after a comma, if one is given; without a comma it is the least one.
def countsEnd (least : Nat) : Reader (Option Nat) := do
  if (← need) == ',' then
    skipWithFiller
    if (← need) == '\x7d' then return none else return some (← count)
  else return some least

-- The counts in braces: `n`, `n,` or `n,m`.
def counts : Reader (Nat × Option Nat) := do
  skipWithFiller
  let least ← count
  let most ← countsEnd least
  expect '\x7d'
  skipFiller
  return (least, most)

def isNameStart (c : Char) : Bool :=
  c == '_' || CharSet.alphabetic.contains c.toNat || Newer.alphabetic.contains c.toNat

def isNameChar (c : Char) : Bool :=
  isNameStart c || c == '.' || c == '[' || c == ']' ||
    (Category.setOf Category.numbers).contains c.toNat || Newer.numbers.contains c.toNat

def isGroupName : List Char → Bool
  | []      => false
  | c :: cs => isNameStart c && cs.all isNameChar

-- The name of a group up to `>`, if it is not the name of another group.
def groupName : Reader Unit := fun s =>
  match Text.cutChars? '>' s.rest with
  | some (name, cs) =>
    if isGroupName name && !s.names.contains name then
      some ((), { s with rest := cs, names := name :: s.names })
    else none
  | none => none

inductive Opening
  -- with the number of the group, if it captures
  | inner (index : Option Nat)
  | directive

-- The number of the group that is opened.
def capture : Reader Opening := fun s =>
  some (.inner (some (s.captures + 1)), { s with captures := s.captures + 1 })

-- A change of modes, for what follows or for one group alone.
def modeChange : Reader Opening := do
  let (m, letters, stop, cs) ← lift ((← modes).read [] true (← rest))
  setModes m
  setRest cs
  if stop == ':' then return .inner none
  else if letters.isEmpty then fail
  else return .directive

-- Past `<` or `P<`, after which a name stands.
def nameStart? : List Char → Option (List Char)
  | '<' :: cs        => some cs
  | 'P' :: '<' :: cs => some cs
  | _                => none

-- What an opening parenthesis opens. A look back, `?<=` or `?<!`, is read as a name that is none.
def opening : Reader Opening := do
  skipFiller
  if (← peek) == some '?' then
    skip
    match nameStart? (← rest) with
    | some cs => do
      setRest cs
      groupName
      capture
    | none => modeChange
  else capture

def isRepetition (c : Char) : Bool := c == '?' || c == '*' || c == '+' || c == '\x7b'

-- The least and the greatest number of times, if there is one, that a repetition asks for.
def repetition : Char → Reader (Nat × Option Nat)
  | '?' => do
    skip
    return (0, some 1)
  | '*' => do
    skip
    return (0, none)
  | '+' => do
    skip
    return (1, none)
  | _   => counts

-- A part that begins with this character, which is next, and is no group.
def part (c : Char) : Reader Piece := do
  let m ← modes
  match c with
  | '['  => do
    let p ← bracketSet
    return .set m p.set p.depth
  | '\\' => do
    lift (Piece.ofPrimitive? m (← escape))
  | '.'  => do
    skip
    return .set m (← lift (dot? m)) 0
  | '^'  => do
    skip
    return .gap (lineStart m)
  | '$'  => do
    skip
    return .gap (lineEnd m)
  | _    => do
    skip
    return .literal m c

-- A group, or a change of modes. `inner` reads up to the parenthesis that ends a group.
def grouped (inner : Reader Piece) : Reader Piece := do
  skip
  let m ← modes
  match ← opening with
  | .directive   => return .directive
  | .inner index => do
    let p ← inner
    expect ')'
    setModes m
    return p.grouped index

-- The pieces so far, the latest first, with a repetition of the latest one.
def repeated (c : Char) : List Piece → Reader (List Piece)
  | []      => fail
  | p :: ps => do
    let (least, most) ← repetition c
    let greedy ← greedy
    let p ← lift (p.times? least most greedy)
    return p :: ps

-- The pieces so far with what begins with this character, which is next.
def extended (inner : Reader Piece) (c : Char) (pieces : List Piece) : Reader (List Piece) := do
  if c == '(' then
    let p ← grouped inner
    return p :: pieces
  else if isRepetition c then repeated c pieces
  else
    let p ← part c
    return p :: pieces

-- Reads up to the parenthesis that ends the group, or to the end. `branches` are the alternatives
-- before this one and `pieces` the pieces of this one so far, both the latest first.
def group : Nat → List Piece → List Piece → Reader Piece
  | 0, _, _ => fail
  | fuel + 1, branches, pieces => do
    skipFiller
    let c? ← peek
    if c? == none || c? == some ')' then
      return Piece.choice (Piece.concat pieces.reverse :: branches).reverse
    else if c? == some '|' then
      skip
      group fuel (Piece.concat pieces.reverse :: branches) []
    else
      let pieces ← extended (group fuel [] []) (← need) pieces
      group fuel branches pieces

-- How deep groups, repetitions, sets and sequences may be nested.
def depthLimit : Nat := 250

def Piece.withinLimits (p : Piece) : Bool := p.depth ≤ depthLimit && p.form.fits

-- The text up to a parenthesis that closes what is not open, or to its end.
def scan (text : List Char) : Option (Piece × Cursor) :=
  group (text.length + 1) [] [] { rest := text }

def read? (text : List Char) : Option (Regex Atom) := do
  let (p, s) ← scan text
  guard (s.rest.isEmpty && p.withinLimits)
  return p.form.regex

end Pattern

end AudioRules

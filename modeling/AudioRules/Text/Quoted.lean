import AudioRules.Characters.Newer

namespace AudioRules

namespace Text

-- Characters that leave no mark of their own: blanks but the space, controls, fillers.
def invisible : CharSet :=
  .union
    (.diff (Category.setOf (Category.separators ++ Category.others))
      (.union (.single ' ') Newer.assigned))
    CharSet.defaultIgnorableCodePoint

-- Characters that are drawn on the one before them. Sound marks of half width stand apart.
def combining : CharSet :=
  .union (.diff CharSet.graphemeExtend Category.lm.set) Newer.nonspacingMarks

-- By its code point.
def escapeCode (c : Char) : List Char :=
  '\\' :: 'u' :: '\x7b' :: Nat.toDigits 16 c.toNat ++ ['\x7d']

-- Characters that would combine with the one before them are written by their code points too.
def quoteChar (c : Char) : List Char :=
  match c with
  | '\x00' => ['\\', '0']
  | '\t'   => ['\\', 't']
  | '\r'   => ['\\', 'r']
  | '\n'   => ['\\', 'n']
  | '\\'   => ['\\', '\\']
  | '"'    => ['\\', '"']
  | c =>
    if c.toNat < 0x7F && 0x20 ≤ c.toNat then [c]
    else if combining.contains c.toNat || invisible.contains c.toNat then escapeCode c
    else [c]

-- As error reports show a text.
def quoted (s : String) : String := "\"" ++ String.ofList (s.toList.flatMap quoteChar) ++ "\""

end Text

end AudioRules

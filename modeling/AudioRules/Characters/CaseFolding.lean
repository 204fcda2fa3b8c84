import AudioRules.Characters.Range

namespace AudioRules

namespace CaseFolding

-- Characters that differ only in case (simple case folding, Unicode 16), and come in pairs: those of
-- the range, and each with the distance added.
structure Pairs where
  lower    : CharRange
  distance : Nat
deriving DecidableEq, Repr

def pairRows : List String :=
  ["41-4A+20 4C-52+20 54-5A+20 C0-C4+20 C6-D6+20 D8-DE+20 DF+1DBF FF+79 100-12E/2+1 132-136/2+1",
   "139-147/2+1 14A-176/2+1 179-17D/2+1 180+C3 181+D2 182-184/2+1 186+CE 187+1 189-18A+CD 18B+1",
   "18E+4F 18F+CA 190+CB 191+1 193+CD 194+CF 195+61 196+D3 197+D1 198+1 19A+A3 19B+A641 19C+D3",
   "19D+D5 19E+82 19F+D6 1A0-1A4/2+1 1A6+DA 1A7+1 1A9+DA 1AC+1 1AE+DA 1AF+1 1B1-1B2+D9 1B3-1B5/2+1",
   "1B7+DB 1B8+1 1BC+1 1BF+38 1CD-1DB/2+1 1DE-1EE/2+1 1F4+1 1F8-21E/2+1 222-232/2+1 23A+2A2B 23B+1",
   "23E+2A28 23F-240+2A3F 241+1 244+45 245+47 246-24E/2+1 250+2A1F 251+2A1C 252+2A1E 25C+A54F",
   "261+A54B 264+A567 265+A528 266+A544 26A+A544 26B+29F7 26C+A541 271+29FD 27D+29E7 282+A543",
   "287+A52A 29D+A515 29E+A512 370-372/2+1 376+1 37B-37D+82 37F+74 386+26 388-38A+25 38C+40",
   "38E-38F+3F 390+1C43 391-393/2+20 394-396/2+20 397+20 39B-39D/2+20 39E-39F+20 3A4-3A5+20",
   "3A7-3A8+20 3AA-3AB+20 3B0+1C33 3CF+8 3D8-3EE/2+1 3F2+7 3F7+1 3FA+1 400-40F+50 410-411+20",
   "413-415/2+20 416-41D+20 41F-420+20 423-429+20 42B-42F+20 460+1 464-480/2+1 48A-4BE/2+1 4C0+F",
   "4C1-4CD/2+1 4D0-52E/2+1 531-556+30 10A0-10C5+1C60 10C7+1C60 10CD+1C60 10D0-10FA+BC0",
   "10FD-10FF+BC0 13A0-13EF+97D0 13F0-13F5+8 1C89+1 1D79+8A04 1D7D+EE6 1D8E+8A38 1E00-1E5E/2+1",
   "1E62-1E94/2+1 1EA0-1EFE/2+1 1F00-1F07+8 1F10-1F15+8 1F20-1F27+8 1F30-1F37+8 1F40-1F45+8",
   "1F51-1F57/2+8 1F60-1F67+8 1F70-1F71+4A 1F72-1F75+56 1F76-1F77+64 1F78-1F79+80 1F7A-1F7B+70",
   "1F7C-1F7D+7E 1F80-1F87+8 1F90-1F97+8 1FA0-1FA7+8 1FB0-1FB1+8 1FB3+9 1FC3+9 1FD0-1FD1+8",
   "1FE0-1FE1+8 1FE5+7 1FF3+9 2132+1C 2160-216F+10 2183+1 24B6-24CF+1A 2C00-2C2F+30 2C60+1",
   "2C67-2C6B/2+1 2C72+1 2C75+1 2C80-2CE2/2+1 2CEB-2CED/2+1 2CF2+1 A640-A648/2+1 A64C-A66C/2+1",
   "A680-A69A/2+1 A722-A72E/2+1 A732-A76E/2+1 A779-A77B/2+1 A77E-A786/2+1 A78B+1 A790-A792/2+1",
   "A794+30 A796-A7A8/2+1 A7B3+3A0 A7B4-A7C2/2+1 A7C7-A7C9/2+1 A7CC+1 A7D0+1 A7D6-A7DA/2+1 A7F5+1",
   "FB05+1 FF21-FF3A+20 10400-10427+28 104B0-104D3+28 10570-1057A+27 1057C-1058A+27 1058C-10592+27",
   "10594-10595+27 10C80-10CB2+40 10D50-10D65+20 118A0-118BF+20 16E40-16E5F+20 1E900-1E921+22"]

def pairs : List Pairs :=
  pairRows.flatMap fun row => (row.splitOn " ").filterMap fun token =>
    match token.splitOn "+" with
    | [range, distance] => do
      let range ← CharRange.ofToken? range
      let distance ← CharRange.hex? distance
      return ⟨range, distance⟩
    | _ => none

-- Families of three and more.
def families : List (List Nat) :=
  [[0x4B, 0x6B, 0x212A],
   [0x53, 0x73, 0x17F],
   [0xB5, 0x39C, 0x3BC],
   [0xC5, 0xE5, 0x212B],
   [0x1C4, 0x1C5, 0x1C6],
   [0x1C7, 0x1C8, 0x1C9],
   [0x1CA, 0x1CB, 0x1CC],
   [0x1F1, 0x1F2, 0x1F3],
   [0x345, 0x399, 0x3B9, 0x1FBE],
   [0x392, 0x3B2, 0x3D0],
   [0x395, 0x3B5, 0x3F5],
   [0x398, 0x3B8, 0x3D1, 0x3F4],
   [0x39A, 0x3BA, 0x3F0],
   [0x3A0, 0x3C0, 0x3D6],
   [0x3A1, 0x3C1, 0x3F1],
   [0x3A3, 0x3C2, 0x3C3],
   [0x3A6, 0x3C6, 0x3D5],
   [0x3A9, 0x3C9, 0x2126],
   [0x412, 0x432, 0x1C80],
   [0x414, 0x434, 0x1C81],
   [0x41E, 0x43E, 0x1C82],
   [0x421, 0x441, 0x1C83],
   [0x422, 0x442, 0x1C84, 0x1C85],
   [0x42A, 0x44A, 0x1C86],
   [0x462, 0x463, 0x1C87],
   [0x1C88, 0xA64A, 0xA64B],
   [0x1E60, 0x1E61, 0x1E9B]]

-- The other characters that differ from a character only in case.
def partners (n : Nat) : List Nat :=
  match families.find? (·.contains n) with
  | some family => family.filter (· != n)
  | none =>
    match pairs.find? (fun p => p.lower.contains n) with
    | some p => [n + p.distance]
    | none =>
      match pairs.find? (fun p => p.distance ≤ n && p.lower.contains (n - p.distance)) with
      | some p => [n - p.distance]
      | none => []

-- The same among the letters of ASCII alone.
def asciiPartners (n : Nat) : List Nat :=
  if 0x41 ≤ n && n ≤ 0x5A then [n + 0x20]
  else if 0x61 ≤ n && n ≤ 0x7A then [n - 0x20]
  else []

end CaseFolding

end AudioRules

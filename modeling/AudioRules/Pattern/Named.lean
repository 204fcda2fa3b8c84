import AudioRules.Characters.Age
import AudioRules.Characters.Boundary

namespace AudioRules

namespace CharSet

-- Names are compared without case, blanks, hyphens and underscores, and without a leading `is`.
def looseName (name : List Char) : String :=
  let isLead : Bool := match name with
    | i :: s :: _ => (i == 'i' || i == 'I') && (s == 's' || s == 'S')
    | _ => false
  let kept := ((if isLead then name.drop 2 else name).filter fun c =>
    c.toNat < 0x80 && c != ' ' && c != '_' && c != '-').map Char.toLower
  -- the one name for which the lead would hide a different name
  if isLead && kept == ['c'] then "isc" else String.ofList kept

def ofCategoryName? : String → Option CharSet
  | "any"      => some .all
  | "ascii"    => some (.range '\x00' '\x7f')
  | "assigned" => some (.compl Category.cn.set)
  | name       => (Category.named? name).map Category.setOf

-- A name alone: a property, a general category or a script, in this order.
def ofName? (name : List Char) : Option CharSet :=
  let name := looseName name
  -- these short names are read as categories
  let property := if name ∈ ["cf", "sc", "lc"] then none else property? name
  property <|> ofCategoryName? name <|> (Script.named? name).map Script.set

-- The characters for which the named property has the named value.
def ofPropertyValue? (property value : List Char) : Option CharSet :=
  let value := looseName value
  match looseName property with
  | "gc" | "generalcategory" => ofCategoryName? value
  | "sc" | "script" => (Script.named? value).map Script.set
  | "scx" | "scriptextensions" => (Script.named? value).map Script.extendedSet
  | "age" => Age.assignedBy? value
  | "gcb" | "graphemeclusterbreak" => ClusterPart.named? value
  | "wb" | "wordbreak" => WordPart.named? value
  | "sb" | "sentencebreak" => SentencePart.named? value
  | _ => none

def asciiWord : CharSet := .ranges [⟨0x30, 0x39, 1⟩, ⟨0x41, 0x5A, 1⟩, .single 0x5F, ⟨0x61, 0x7A, 1⟩]

def asciiSpace : CharSet := .ranges [⟨0x9, 0xD, 1⟩, .single 0x20]

def asciiDigit : CharSet := .range '0' '9'

-- The ASCII classes that are written between `[:` and `:]`.
def asciiClass? : String → Option CharSet
  | "alnum"  => some (.ranges [⟨0x30, 0x39, 1⟩, ⟨0x41, 0x5A, 1⟩, ⟨0x61, 0x7A, 1⟩])
  | "alpha"  => some (.ranges [⟨0x41, 0x5A, 1⟩, ⟨0x61, 0x7A, 1⟩])
  | "ascii"  => some (.ranges [⟨0x0, 0x7F, 1⟩])
  | "blank"  => some (.ranges [.single 0x9, .single 0x20])
  | "cntrl"  => some (.ranges [⟨0x0, 0x1F, 1⟩, .single 0x7F])
  | "digit"  => some asciiDigit
  | "graph"  => some (.ranges [⟨0x21, 0x7E, 1⟩])
  | "lower"  => some (.ranges [⟨0x61, 0x7A, 1⟩])
  | "print"  => some (.ranges [⟨0x20, 0x7E, 1⟩])
  | "punct"  => some (.ranges [⟨0x21, 0x2F, 1⟩, ⟨0x3A, 0x40, 1⟩, ⟨0x5B, 0x60, 1⟩, ⟨0x7B, 0x7E, 1⟩])
  | "space"  => some asciiSpace
  | "upper"  => some (.ranges [⟨0x41, 0x5A, 1⟩])
  | "word"   => some asciiWord
  | "xdigit" => some (.ranges [⟨0x30, 0x39, 1⟩, ⟨0x41, 0x46, 1⟩, ⟨0x61, 0x66, 1⟩])
  | _        => none

end CharSet

end AudioRules

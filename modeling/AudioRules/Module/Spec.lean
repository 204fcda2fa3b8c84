import AudioRules.Text.Cut

namespace AudioRules

-- In its compact form `name@arguments`, with `%20` for spaces.
structure ModuleSpec where
  name : String
  args : Option String
deriving DecidableEq, Repr

namespace ModuleSpec

def decodeSpaces : List Char → List Char
  | '%' :: '2' :: '0' :: cs => ' ' :: decodeSpaces cs
  | c :: cs => c :: decodeSpaces cs
  | [] => []

def encodeSpaces : List Char → List Char
  | [] => []
  | c :: cs => if c = ' ' then '%' :: '2' :: '0' :: encodeSpaces cs else c :: encodeSpaces cs

-- A module has a name.
def parse (text : String) : Option ModuleSpec :=
  let spec : ModuleSpec := match Text.cut? '@' text with
    | some (name, args) => ⟨name, some (String.ofList (decodeSpaces args.toList))⟩
    | none => ⟨text, none⟩
  if spec.name = "" then none else some spec

def compact (m : ModuleSpec) : String :=
  match m.args with
  | some args => m.name ++ "@" ++ String.ofList (encodeSpaces args.toList)
  | none => m.name

def text (m : ModuleSpec) : String :=
  match m.args with
  | some args => m.name ++ " " ++ args
  | none => m.name

end ModuleSpec

end AudioRules

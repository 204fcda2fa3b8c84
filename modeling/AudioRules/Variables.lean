import AudioRules.KeyMap

namespace AudioRules

abbrev Variables := KeyMap String

namespace Variables

def set (vars : Variables) (name value : String) : Variables := vars.insert name value

-- A variable stands for the whole of a text. What it stands for is not looked up again.
def resolve (vars : Variables) (text : String) : String := (vars.get? text).getD text

def resolveOpt (vars : Variables) (text : Option String) : Option String := text.map vars.resolve

end Variables

end AudioRules

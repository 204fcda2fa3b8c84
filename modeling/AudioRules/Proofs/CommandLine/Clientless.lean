import AudioRules.CommandLine.Run
import AudioRules.Proofs.CommandLine.Agreement

namespace AudioRules

namespace StreamDescription

variable {s : StreamDescription}

end StreamDescription

namespace Group

open CommandLine (parse? Result)

variable {m : Machine τ} {path : String} {s s' : StreamDescription}

end Group

end AudioRules

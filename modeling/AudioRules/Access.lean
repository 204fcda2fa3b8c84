namespace AudioRules

-- Why a file does not open, or a program does not start.
inductive AccessError
  | notFound | denied | notADirectory | isADirectory | nameTooLong
  -- names and arguments end at a NUL, so there is no way to hand one over
  | nul
  | other (reason : String)
deriving DecidableEq, Repr

namespace AccessError

def message : AccessError → String
  | notFound      => "No such file or directory (os error 2)"
  | denied        => "Permission denied (os error 13)"
  | notADirectory => "Not a directory (os error 20)"
  | isADirectory  => "Is a directory (os error 21)"
  | nameTooLong   => "File name too long (os error 36)"
  | nul           => "nul byte found in provided data"
  | other reason  => reason

end AccessError

end AudioRules

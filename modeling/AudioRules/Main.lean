import AudioRules.CommandLine.Run

namespace AudioRules

namespace CommandLine

def accessError : IO.Error → AccessError
  | .noFileOrDirectory _ _ _    => .notFound
  | .permissionDenied _ _ _     => .denied
  | .inappropriateType _ code _ => if code = 20 then .notADirectory else .isADirectory
  | .invalidArgument _ 36 _     => .nameTooLong
  | e                           => .other (toString e)

def readFile (path : String) : IO (Except AccessError Bytes) := do
  try
    return .ok (← IO.FS.readBinFile path).toList
  catch e =>
    return .error (accessError e)

-- The directory for settings that the environment names.
def settings : IO String := do
  match ← IO.getEnv "XDG_CONFIG_HOME" with
  | some directory => if directory.startsWith "/" then return directory
  | none => pure ()
  return (← IO.getEnv "HOME").elim "." (· ++ "/.config")

-- The files that a request may read.
def paths (configDirectory : String) : Option Request → List String
  | some (.run rules (.classify options)) =>
    rules.getD (defaultRules configDirectory) :: options.dump.toList
  | some (.run rules _) => [rules.getD (defaultRules configDirectory)]
  | _ => []

-- The files of the machine that is there, but none of its programs.
def machine (configDirectory : String) (files : List (String × Except AccessError Bytes)) :
    Machine Unit where
  read path := (files.lookup path).getD (.error .notFound)
  configDirectory := configDirectory
  dump := .error .notFound
  pactl := Tool.missing
  state := ()

end CommandLine

end AudioRules

open AudioRules AudioRules.CommandLine in
def main (args : List String) : IO UInt32 := do
  let configDirectory ← settings
  let files ← (paths configDirectory (parse? args)).mapM fun path => return (path, ← readFile path)
  let result := run (machine configDirectory files) args
  result.stdout.forM IO.println
  result.stderr.forM IO.eprintln
  return result.exit.toUInt32

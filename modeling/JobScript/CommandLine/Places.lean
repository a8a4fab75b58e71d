import JobScript.CommandLine.Run

/-! # Places that matter to a run

A run looks at the files that its arguments and the environment name, and at those that a search for
the configuration tries. No other part of the file system has to be known to it.
-/

namespace JobScript.CommandLine

open Files

/-- The environment that a run asks for. -/
def settingNames : List String :=
  ["BUILDSCRIPT_LOG_LEVEL", "BUILDSCRIPT_LOG_FILE", "BUILDSCRIPT_LOG_FILE_LEVEL",
   "BUILDSCRIPT_APP_HOST"]

def switchPaths (args : List String) : List String :=
  match Common.parse args with
  | .error _ => []
  | .ok (c, name, rest) =>
    c.config.toList ++ match Command.parse name rest with
      | .ok (.compile _ output _) => output.toList
      | _ => []

def namedPaths (environment : List (String × String)) (args : List String) : List Path :=
  (switchPaths args ++ (environment.lookup "BUILDSCRIPT_LOG_FILE").toList).map .ofText

def candidates (directory : Location) : List Location :=
  ([] :: upTo directory).map (· ++ [configFileName])

def places (directory : Location) (environment : List (String × String)) (args : List String) :
    List Location :=
  let paths := namedPaths environment args
  let ends := paths.flatMap (Path.stops directory) ++ paths.map (Path.resolve directory)
  ((ends ++ directory :: candidates directory).flatMap upTo).eraseDups

end JobScript.CommandLine

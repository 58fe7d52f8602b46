import PhotonFerry.CommandLine.Program
/-!
# What the program needs to see of a disk

The program is a function of a disk, but a whole disk cannot be loaded. The
places that it looks at are known in two steps: first the configuration file, and
once that is there, the files of the command and the folder for log files.
-/

namespace PhotonFerry.CommandLine

namespace Needs

/-- The paths that the configuration is looked for under. -/
def configPaths (invocation : Invocation) : List String :=
  [invocation.configFile.getD Config.defaultFile]

/-- The names of the recordings that a command reads. -/
def recordings (config : Config) : Command → List String
  | .probe .. => []
  | .replay table _ _ => [table.getD config.recording]
  | .inspect table => [table.getD config.recording]

/-- The paths of the other files that a command reads. -/
def commandPaths : Command → List String
  | .replay _ catalog _ => [catalog]
  | _ => []

/-- The paths that are looked at once the configuration is known. -/
def laterPaths (config : Config) (invocation : Invocation) : List String :=
  config.logging.directory.toList ++ commandPaths invocation.command

/-- The variables of the environment that are looked at. -/
def variableNames : List String :=
  Program.filterVariable :: Config.keys.map (Config.keyPrefix ++ ·)

end Needs

end PhotonFerry.CommandLine

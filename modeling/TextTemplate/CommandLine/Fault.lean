import TextTemplate.Engine.Basic

/-!
# Faults of commands
-/

namespace TextTemplate

/-- Why there are no settings. -/
inductive SettingsFault
  | unreadable (path reason : String)
  | invalid (path : String)
deriving DecidableEq

def SettingsFault.message : SettingsFault → String
  | .unreadable path reason => "failed to read config " ++ path ++ ": " ++ reason
  | .invalid path => "invalid config " ++ path

/-- Why a command fails. -/
inductive CommandFault
  /-- The settings that the command line names. -/
  | settings (path : String) (fault : SettingsFault)
  | defaultSettings (fault : SettingsFault)
  | noContext (path : String)
  | unreadableContext (path reason : String)
  | invalidContext (path : String)
  | contextType (type path : String)
  | noAssignment (s : String)
  | noName (s : String)
  | engine (fault : EngineFault)
deriving DecidableEq

def CommandFault.message : CommandFault → String
  | .settings path fault => "Failed to load config file: " ++ path ++ ": " ++ fault.message
  | .defaultSettings fault => "Failed to load default config: " ++ fault.message
  | .noContext path => "Context file does not exist: " ++ path
  | .unreadableContext path reason => "Failed to read context file: " ++ path ++ ": " ++ reason
  | .invalidContext path => "Context file is not valid JSON: " ++ path
  | .contextType type path =>
    "Context file must contain a JSON object, found " ++ type ++ ": " ++ path
  | .noAssignment s => "Expected KEY=VALUE, got '" ++ s ++ "'"
  | .noName s => "Missing key in '" ++ s ++ "'"
  | .engine fault => fault.message

end TextTemplate

import Lifelines.Files.Tree
import Lifelines.Param

/-!
# Errors of the configuration

What can go wrong with settings files and with files of parameters. Each error
says what was attempted and keeps its cause.
-/

namespace Lifelines

/-- What an error of the configuration goes back to. -/
inductive Cause where
  /-- A file is not accessible. -/
  | file (error : FileError)
  /-- A text is not the JSON that is needed. -/
  | json
  /-- A parameter is not set. -/
  | param (error : ParamError)
  deriving Repr

/-- The errors of the configuration. -/
inductive ConfigError where
  | settingsUnreadable (path : String) (error : FileError)
  | directoryNotMade (path : String) (error : FileError)
  | settingsNotWritten (path : String) (error : FileError)
  | settingsNotRemoved (path : String) (error : FileError)
  | paramsUnreadable (path : String) (error : FileError)
  | paramsNotObject (path : String)
  | notParamValue (name : String)
  | invalidOverride (name : String) (error : ParamError)
  deriving Repr

namespace ConfigError

/-- What was attempted in vain. -/
def message : ConfigError → String
  | settingsUnreadable path _ => "Failed to read config " ++ path
  | directoryNotMade path _ => "Failed to create config dir " ++ path
  | settingsNotWritten path _ => "Failed to write config " ++ path
  | settingsNotRemoved path _ => "Failed to remove " ++ path
  | paramsUnreadable path _ => "Failed to read parameters " ++ path
  | paramsNotObject path => "Parameters in " ++ path ++ " must be a JSON object"
  | notParamValue name => "Parameter " ++ name ++ " must be a number or boolean"
  | invalidOverride name _ => "Invalid parameter override " ++ name

/-- The cause of an error. -/
def cause : ConfigError → Cause
  | settingsUnreadable _ e | directoryNotMade _ e | settingsNotWritten _ e
  | settingsNotRemoved _ e | paramsUnreadable _ e => .file e
  | paramsNotObject _ | notParamValue _ => .json
  | invalidOverride _ e => .param e

end ConfigError

end Lifelines

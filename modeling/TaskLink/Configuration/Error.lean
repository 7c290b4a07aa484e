/-!
# Configuration errors
-/

namespace TaskLink

inductive FileFault where
  | missing
  | isDirectory
  | notText
  | other (detail : String)
  deriving DecidableEq

def FileFault.message : FileFault → String
  | .missing => "No such file or directory (os error 2)"
  | .isDirectory => "Is a directory (os error 21)"
  | .notText => "stream did not contain valid UTF-8"
  | .other detail => detail

inductive ConfigurationError where
  | notFound (detail : String)
  | unreadable (fault : FileFault)
  | badSyntax (detail : String)
  | invalid (detail : String)
  | badValue (detail : String)
  deriving DecidableEq

def ConfigurationError.message : ConfigurationError → String
  | .notFound detail => s!"Config file not found. Searched: {detail}"
  | .unreadable fault => s!"Failed to read config file: {fault.message}"
  | .badSyntax detail => s!"Invalid TOML syntax: {detail}"
  | .invalid detail => s!"Validation failed: {detail}"
  | .badValue detail => s!"Invalid configuration value: {detail}"

end TaskLink

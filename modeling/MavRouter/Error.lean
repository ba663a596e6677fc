import Mathlib.Init

set_option autoImplicit false

namespace MavRouter

structure IoError where
  message : String
  deriving DecidableEq, Repr

structure TomlError where
  message : String
  deriving DecidableEq, Repr

inductive RouterError where
  | configParse (source : TomlError)
  | configParseFile (path : String) (source : TomlError)
  | configValidation (context : String)
  | network (endpoint : String) (source : IoError)
  | filesystem (path : String) (source : IoError)
  deriving DecidableEq, Repr

def RouterError.display : RouterError → String
  | .configParse source => "Failed to parse TOML config: " ++ source.message
  | .configParseFile path source => "Failed to parse TOML config file '" ++ path ++ "': " ++ source.message
  | .configValidation context => "Configuration validation error: " ++ context
  | .network endpoint source => "Network error on endpoint '" ++ endpoint ++ "': " ++ source.message
  | .filesystem path source => "Filesystem error at '" ++ path ++ "': " ++ source.message

end MavRouter

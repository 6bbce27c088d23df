/-!
# Log records

What an expansion or a session has to report besides its result.
-/

namespace SqlTemplate

inductive LogLevel where
  | debug
  | warning
deriving DecidableEq, Repr

def LogLevel.name : LogLevel → String
  | debug => "DEBUG"
  | warning => "WARNING"

structure LogRecord where
  level : LogLevel
  message : String
deriving DecidableEq, Repr

end SqlTemplate

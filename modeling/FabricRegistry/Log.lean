/-!
What components report about their work.
-/

namespace FabricRegistry

/-- how much a remark matters -/
inductive Level where
  | debug
  | info
  | warn
  | error
  deriving DecidableEq, Repr

def Level.text : Level → String
  | debug => "DEBUG"
  | info => "INFO"
  | warn => "WARN"
  | error => "ERROR"

/-- one line of a log -/
structure Remark where
  level : Level
  message : String
  deriving DecidableEq, Repr

end FabricRegistry

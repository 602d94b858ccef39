/-!
# Log lines
-/

namespace GeoRouting

inductive Level where
  | error | warn | debug | trace
deriving DecidableEq, Repr

namespace Level

def name : Level → String
  | .error => "ERROR"
  | .warn => "WARN"
  | .debug => "DEBUG"
  | .trace => "TRACE"

end Level

structure LogLine where
  level : Level
  text : String
deriving DecidableEq, Repr

def LogLine.print (l : LogLine) : String := l.level.name ++ " " ++ l.text

end GeoRouting

/-!
# Severities

The weight of a diagnostic, with the names by which a configuration selects severities and the
flag bits of the debug report extension.
-/

set_option autoImplicit false

namespace HandleLedger

/-- The weight of a diagnostic. -/
inductive Severity
  | information
  | warning
  | performanceWarning
  | error
  | debug
  deriving DecidableEq, Repr

namespace Severity

/-- Every severity, in the order of declaration. -/
def all : List Severity := [.information, .warning, .performanceWarning, .error, .debug]

/-- The name of a severity. -/
def name : Severity → String
  | .information => "information"
  | .warning => "warning"
  | .performanceWarning => "performance_warning"
  | .error => "error"
  | .debug => "debug"

/-- The severity of a name. -/
def ofName? (text : String) : Option Severity := all.find? (·.name == text)

/-- The flag bit of a severity. -/
def flag : Severity → Nat
  | .information => 1
  | .warning => 2
  | .performanceWarning => 4
  | .error => 8
  | .debug => 16

end Severity

end HandleLedger

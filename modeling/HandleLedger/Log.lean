import HandleLedger.ContextId
import HandleLedger.Report

/-!
# The log

What the ledger writes to the log. Each entry is a cause; its level, its message and its fields
follow from the cause.
-/

set_option autoImplicit false

namespace HandleLedger

open Text (hexadecimal)

/-- The level of a log entry. -/
inductive Level
  | error
  | warn
  | info
  | debug
  deriving DecidableEq

/-- The name of a level. -/
def Level.name : Level → String
  | .error => "ERROR"
  | .warn => "WARN"
  | .info => "INFO"
  | .debug => "DEBUG"

/-- The level at which a diagnostic is logged. -/
def Severity.level : Severity → Level
  | .error => .error
  | .warning => .warn
  | .performanceWarning => .warn
  | .information => .info
  | .debug => .debug

/-- An entry of the log. -/
inductive Log
  /-- A context was addressed that is not known. -/
  | unknownContext (id : ContextId)
  | registeringInstance (key : DispatchKey) (handle : Handle)
  | registeringDevice (instanceKey key : DispatchKey) (handle : Handle)
  /-- A context was registered under the identity of a known one. -/
  | replaced (id : ContextId)
  /-- A context was destroyed that held this many objects. -/
  | destroyed (id : ContextId) (drained : Nat)
  /-- An object was to be dropped that has no record. -/
  | untracked (kind : Kind) (handle : Handle)
  /-- A device was created from an instance that is not known. -/
  | untrackedInstance (key : DispatchKey)
  /-- A device was destroyed that is not known. -/
  | unknownDevice (key : DispatchKey)
  /-- The file at a path spells no configuration, for some reason. -/
  | malformedConfig (path reason : String)
  /-- The layer has looked for its configuration at a path. -/
  | loaded (path : String)
  /-- A sink wrote a report to the log. -/
  | diagnostic (r : Report)
  deriving DecidableEq

namespace Log

/-- The level of an entry. -/
def level : Log → Level
  | .unknownContext _ => .warn
  | .registeringInstance .. => .debug
  | .registeringDevice .. => .debug
  | .replaced _ => .error
  | .destroyed .. => .debug
  | .untracked .. => .error
  | .untrackedInstance _ => .warn
  | .unknownDevice _ => .error
  | .malformedConfig .. => .warn
  | .loaded _ => .info
  | .diagnostic r => r.severity.level

/-- The message of an entry. -/
def message : Log → String
  | .unknownContext _ => "no registry for context"
  | .registeringInstance .. => "registering instance context"
  | .registeringDevice .. => "registering device context"
  | .replaced id => s!"{id.scope.name} context registered twice; previous registry discarded"
  | .destroyed id _ => s!"{id.scope.name} context destroyed"
  | .untracked .. => "attempted to remove an untracked object"
  | .untrackedInstance _ => "device created from an untracked instance"
  | .unknownDevice _ => "destroying a device with no registry"
  | .malformedConfig .. => "ignoring malformed tracker configuration"
  | .loaded _ => "object tracker layer loaded"
  | .diagnostic r => r.message

/-- The fields of an entry, by name. Keys are in base sixteen, handles in base ten. -/
def fields : Log → List (String × String)
  | .unknownContext id => [("ctx", id.described)]
  | .registeringInstance key handle =>
    [("key", hexadecimal key), ("instance", toString handle.toNat)]
  | .registeringDevice instanceKey key handle =>
    [("key", hexadecimal key), ("instance", hexadecimal instanceKey),
      ("device", toString handle.toNat)]
  | .replaced id => [("key", hexadecimal id.key)]
  | .destroyed id drained => [("key", hexadecimal id.key), ("drained", toString drained)]
  | .untracked kind handle =>
    [("code", Code.internalError), ("object_type", kind.name),
      ("handle", toString handle.toNat)]
  | .untrackedInstance key => [("key", hexadecimal key)]
  | .unknownDevice key => [("key", hexadecimal key)]
  | .malformedConfig path reason => [("path", path), ("error", reason)]
  | .loaded path => [("path", path)]
  | .diagnostic r =>
    [("code", r.code), ("object_type", r.kind.name),
      ("report_type", toString r.kind.reportCode), ("handle", toString r.handle.toNat)]

end Log

end HandleLedger

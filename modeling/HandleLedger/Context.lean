import HandleLedger.ContextId
import HandleLedger.Registry
import HandleLedger.Sink

/-!
# Contexts and their directory

A context is an instance or a device that is known to the ledger, with the registry of its objects
and the sink that hears about them. The directory files each context under its identity; its
listings come in order of identity.
-/

set_option autoImplicit false

namespace HandleLedger

/-- An instance or a device with its books. -/
structure Context where
  scope : Scope
  key : DispatchKey
  /-- The handle of the instance or device itself. -/
  handle : Handle
  /-- The key of the instance that a device was created from. -/
  parent : Option DispatchKey
  sink : Sink
  registry : Registry

/-- The identity under which a context is filed. -/
def Context.id (c : Context) : ContextId := ⟨c.scope, c.key⟩

/-- The contexts that are known, each under its identity. -/
abbrev Directory := Table ContextId Context

namespace Directory

/-- File a context under its identity, in place of one filed there before. -/
def file (d : Directory) (c : Context) : Directory := d.insert c.id c

/-- The instances. -/
def instances (d : Directory) : List Context :=
  d.values.filter (·.scope = .instanceLevel)

/-- The devices. -/
def devices (d : Directory) : List Context :=
  d.values.filter (·.scope = .deviceLevel)

/-- The devices other than the one with this key. -/
def devicesExcept (d : Directory) (excluded : Option DispatchKey) : List Context :=
  d.devices.filter fun c => some c.key != excluded

/-- The devices that were created from the instance with this key. -/
def devicesOf (d : Directory) (instanceKey : DispatchKey) : List Context :=
  d.devices.filter (·.parent = some instanceKey)

end Directory

end HandleLedger

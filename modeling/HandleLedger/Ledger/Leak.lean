import HandleLedger.Check

/-!
# Leaks

An object that outlives its owner is a leak. Leaks are reported when the owner is destroyed; the
verdicts of the sinks are not heeded then. Images of swapchains are the business of the swapchain
and never leaks.
-/

set_option autoImplicit false

namespace HandleLedger

/-- The leak reports of a context for some kinds, by kind and then by handle. -/
def Context.leaks (c : Context) (kinds : List Kind) (code : Code) : List Report :=
  kinds.flatMap fun k => (c.registry.recordsOf k).map (.leaked c.scope c.handle code)

namespace Ledger

/-- Hand the leak reports of a context to its sink. -/
def leakTrace (c : Context) (kinds : List Kind) (code : Code) : Trace :=
  (c.leaks kinds code).map (.report c.sink)

/-- Report the objects of some kinds that a context still holds. -/
def reportKinds (l : Ledger) (id : ContextId) (kinds : List Kind) (code : Code) : Survey :=
  l.surveyed id fun c => ⟨!(c.leaks kinds code).isEmpty, leakTrace c kinds code⟩

/-- Report the objects that the application had to destroy before the owner of the context. -/
def reportOwned (l : Ledger) (id : ContextId) (code : Code) : Survey :=
  l.reportKinds id id.scope.ownedKinds code

/-- Report the devices of an instance to the sink of the instance, each with the objects that it
still holds. -/
def reportDevices (l : Ledger) (instanceKey : DispatchKey) (code : Code) : Survey :=
  l.surveyed (.ofInstance instanceKey) fun c =>
    let devices := l.contexts.devicesOf instanceKey
    ⟨!devices.isEmpty, devices.flatMap fun d =>
      .report c.sink (.deviceLeaked d.handle) :: leakTrace d Kind.deviceChildren code⟩

end Ledger

end HandleLedger
